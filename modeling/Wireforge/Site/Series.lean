import Wireforge.Infra.Accounts
import Wireforge.Lib.Tally
import Wireforge.Site.State

/-!
# The series of the traffic

Every snapshot holds the counters that a peer has reached. A minute of the series is the sum of all
snapshots that fall into it, so that a peer counts once for each of its readings.
`minutes_exact_iff` says for which tables each minute is the sum of the last readings of the peers.
-/

namespace Wireforge

open Effect Tally

/-! ## The two directions -/

/-- Sent or received. -/
inductive Direction where
  | tx | rx
  deriving DecidableEq

/-- The counter of a snapshot. -/
def Direction.counter (d : Direction) (row : TrafficSnapshot) : UInt64 :=
  match d with
  | .tx => row.tx
  | .rx => row.rx

/-! ## The latest snapshot of a peer -/

/-- The latest of the snapshots of a peer, and the one stored last of several. -/
def lastSnapshot (rows : List TrafficSnapshot) (peerId : Id PeerMarker) : Option TrafficSnapshot :=
  (sortedBy TrafficSnapshot.recordedAt (rows.filter (·.peerId = peerId))).getLast?

theorem last_snapshot_latest {rows : List TrafficSnapshot} {peerId : Id PeerMarker}
    {row : TrafficSnapshot} (h : lastSnapshot rows peerId = some row) :
    (row ∈ rows ∧ row.peerId = peerId) ∧
      ∀ other ∈ rows, other.peerId = peerId → other.recordedAt ≤ row.recordedAt := by
  have hmem : ∀ {other : TrafficSnapshot},
      other ∈ sortedBy TrafficSnapshot.recordedAt (rows.filter (·.peerId = peerId)) ↔
        other ∈ rows ∧ other.peerId = peerId := by
    intro other
    rw [mem_sorted_by, List.mem_filter, decide_eq_true_eq]
  have hlast := List.mem_of_getLast? h
  refine ⟨hmem.mp hlast, fun other hother hid => ?_⟩
  have htotal : Std.Total fun a b : TrafficSnapshot => a.recordedAt ≤ b.recordedAt :=
    ⟨fun a b => Int.le_total a.recordedAt.nanos b.recordedAt.nanos⟩
  have htrans : IsTrans TrafficSnapshot fun a b => a.recordedAt ≤ b.recordedAt :=
    ⟨fun a b c hab hbc =>
      DateTime.le_iff.mpr (Int.le_trans (DateTime.le_iff.mp hab) (DateTime.le_iff.mp hbc))⟩
  have hsorted : (sortedBy TrafficSnapshot.recordedAt (rows.filter (·.peerId = peerId))).Pairwise
      fun a b => a.recordedAt ≤ b.recordedAt := List.pairwise_insertionSort _ _
  obtain ⟨before, hbefore⟩ := List.getLast?_eq_some_iff.mp h
  have hin := hmem.mpr ⟨hother, hid⟩
  rw [hbefore] at hsorted hin
  rcases List.mem_append.mp hin with hin | hin
  · exact (List.pairwise_append.mp hsorted).2.2 other hin row List.mem_cons_self
  · rw [List.mem_singleton.mp hin]
    exact Int.le_refl row.recordedAt.nanos

theorem last_snapshot_eq_none {rows : List TrafficSnapshot} {peerId : Id PeerMarker} :
    lastSnapshot rows peerId = none ↔ ∀ row ∈ rows, row.peerId ≠ peerId := by
  unfold lastSnapshot
  rw [List.getLast?_eq_none_iff]
  constructor
  · intro hnil row hrow hid
    have hmem : row ∈ sortedBy TrafficSnapshot.recordedAt (rows.filter (·.peerId = peerId)) :=
      mem_sorted_by.mpr (List.mem_filter.mpr ⟨hrow, decide_eq_true hid⟩)
    rw [hnil] at hmem
    cases hmem
  · intro h
    have hnone : rows.filter (·.peerId = peerId) = [] :=
      List.filter_eq_nil_iff.mpr fun row hrow => by simpa using h row hrow
    rw [hnone]
    rfl

/-! ## Sums of a column -/

/-- A sum of signed numbers is computed exactly if none of its parts leaves the range. -/
theorem sum_column_ok {column : List Int} {sum : Int} :
    sumColumn column = .ok sum ↔
      (∀ n, -2 ^ 63 ≤ (column.take n).sum ∧ (column.take n).sum < 2 ^ 63) ∧
        sum = column.sum := by
  suffices h : ∀ start : Int, (-2 ^ 63 ≤ start ∧ start < 2 ^ 63) →
      (column.foldlM (fun sum n => if -2 ^ 63 ≤ sum + n ∧ sum + n < 2 ^ 63 then
          (.ok (sum + n) : Except String Int) else .error "integer overflow") start = .ok sum ↔
        (∀ n, -2 ^ 63 ≤ start + (column.take n).sum ∧ start + (column.take n).sum < 2 ^ 63) ∧
          sum = start + column.sum) by
    have hzero := h 0 (by decide)
    simp only [zero_add] at hzero
    exact hzero
  induction column with
  | nil =>
      intro start hstart
      simp only [List.foldlM_nil, List.take_nil, List.sum_nil, add_zero]
      constructor
      · intro h
        cases h
        exact ⟨fun _ => hstart, rfl⟩
      · intro h
        rw [h.2]
        rfl
  | cons first rest ih =>
      intro start hstart
      rw [List.foldlM_cons, List.sum_cons]
      by_cases hrange : -2 ^ 63 ≤ start + first ∧ start + first < 2 ^ 63
      · rw [if_pos hrange]
        refine (ih (start + first) hrange).trans (and_congr ?_ (by rw [add_assoc]))
        constructor
        · intro h n
          cases n with
          | zero => simpa using hstart
          | succ n => simpa [add_assoc] using h n
        · intro h n
          simpa [add_assoc] using h (n + 1)
      · rw [if_neg hrange]
        refine iff_of_false (fun h => by cases h) fun h => hrange ?_
        simpa using h.1 1

/-! ## The readings of a minute -/

/-- The snapshots since a time that fall into a minute. -/
def readings (traffic : List TrafficSnapshot) (since bucket : DateTime) : List TrafficSnapshot :=
  (traffic.filter (since ≤ ·.recordedAt)).filter fun row => minuteOf row.recordedAt = bucket

/-- The snapshots of a peer in the order of time. -/
def snapshotsOf (rows : List TrafficSnapshot) (peerId : Id PeerMarker) : List TrafficSnapshot :=
  sortedBy TrafficSnapshot.recordedAt (rows.filter (·.peerId = peerId))

/-- The last snapshot of each peer. -/
def lastReadings (rows : List TrafficSnapshot) : List TrafficSnapshot :=
  (rows.map TrafficSnapshot.peerId).dedup.filterMap (lastSnapshot rows)

/-- The snapshots that another one of their peer follows. -/
def followedReadings (rows : List TrafficSnapshot) : List TrafficSnapshot :=
  (rows.map TrafficSnapshot.peerId).dedup.flatMap fun peerId => (snapshotsOf rows peerId).dropLast

/-- What the signed column holds of a counter. -/
@[irreducible] def Direction.stored (d : Direction) (row : TrafficSnapshot) : Int :=
  asI64 (d.counter row).toNat

/-- The bytes of the last snapshots. -/
def lastSum (d : Direction) (rows : List TrafficSnapshot) : Nat :=
  ((lastReadings rows).map fun row => (d.counter row).toNat).sum

/-- A column adds up what the last snapshots of the peers hold and what the others do. -/
theorem sum_stored (d : Direction) (rows : List TrafficSnapshot) :
    (rows.map d.stored).sum =
      ((lastReadings rows).map d.stored).sum + ((followedReadings rows).map d.stored).sum := by
  have hkeys : (rows.map TrafficSnapshot.peerId).dedup.Nodup := List.nodup_dedup _
  have hcover : ∀ row ∈ rows, row.peerId ∈ (rows.map TrafficSnapshot.peerId).dedup :=
    fun row hrow => List.mem_dedup.mpr (List.mem_map_of_mem hrow)
  have hpeer : ∀ peerId, ((rows.filter (·.peerId = peerId)).map d.stored).sum =
      ((lastSnapshot rows peerId).map d.stored).getD 0 +
        (((snapshotsOf rows peerId).dropLast).map d.stored).sum := by
    intro peerId
    have hperm : (snapshotsOf rows peerId).Perm (rows.filter (·.peerId = peerId)) :=
      List.perm_insertionSort _ _
    have hsnapshot : lastSnapshot rows peerId = (snapshotsOf rows peerId).getLast? := rfl
    rw [← (hperm.map d.stored).sum_eq, hsnapshot]
    cases hlast : (snapshotsOf rows peerId).getLast? with
    | none =>
        have hnil := List.getLast?_eq_none_iff.mp hlast
        simp only [hnil, List.dropLast_nil, List.map_nil, List.sum_nil, Option.map_none,
          Option.getD_none, add_zero]
    | some last =>
        obtain ⟨before, hbefore⟩ := List.getLast?_eq_some_iff.mp hlast
        rw [hbefore, List.dropLast_concat, List.map_append, List.sum_append, List.map_cons,
          List.map_nil, List.sum_cons, List.sum_nil, add_zero, Option.map_some, Option.getD_some,
          add_comm]
  rw [← sum_fibers hkeys TrafficSnapshot.peerId d.stored hcover, lastReadings, followedReadings,
    sum_filter_map, sum_flat_map, ← List.sum_map_add]
  exact congrArg List.sum (List.map_congr_left fun peerId _ => hpeer peerId)

theorem stored_eq_iff (d : Direction) (row : TrafficSnapshot) :
    d.stored row = (d.counter row).toNat ↔ (d.counter row).toNat < 2 ^ 63 := by
  have hlt := (d.counter row).toNat_lt
  unfold Direction.stored asI64
  omega

/-- Counters that fit are stored as they are. -/
theorem sum_stored_last {d : Direction} {rows : List TrafficSnapshot}
    (h : lastSum d rows < 2 ^ 63) : ((lastReadings rows).map d.stored).sum = lastSum d rows := by
  unfold lastSum at h ⊢
  generalize lastReadings rows = last at h ⊢
  induction last with
  | nil => simp
  | cons row rest ih =>
      rw [List.map_cons, List.sum_cons] at h ⊢
      have hrow := Nat.lt_of_le_of_lt (Nat.le_add_right _ _) h
      have hrest := Nat.lt_of_le_of_lt (Nat.le_add_left _ _) h
      rw [(stored_eq_iff d row).mpr hrow, ih hrest, List.map_cons, List.sum_cons, Nat.cast_add]

/-! ## One minute -/

/-- The readings of a minute count every peer once: what the last readings of the peers add up to
fits in a signed column, the other readings add nothing to it, and no part of the column leaves the
range. -/
structure CountsOnce (d : Direction) (rows : List TrafficSnapshot) : Prop where
  fits : lastSum d rows < 2 ^ 63
  others : ((followedReadings rows).map d.stored).sum = 0 ∨
    lastSum d rows = 0 ∧ ((followedReadings rows).map d.stored).sum ≤ 0
  parts : ∀ n, -2 ^ 63 ≤ ((rows.map d.stored).take n).sum ∧
    ((rows.map d.stored).take n).sum < 2 ^ 63

theorem to_nat_clamped {sum : Int} (h : sum < 2 ^ 63) :
    (UInt64.ofNat sum.toNat).toNat = sum.toNat := by
  refine UInt64.toNat_ofNat_of_lt' ?_
  show sum.toNat < 18446744073709551616
  omega

/-- The sum of a column is that of the last readings exactly if the readings count every peer
once. -/
theorem column_exact_iff (d : Direction) (rows : List TrafficSnapshot) :
    (∃ sum, sumColumn (rows.map d.stored) = .ok sum ∧
        (UInt64.ofNat sum.toNat).toNat = lastSum d rows) ↔ CountsOnce d rows := by
  have hsplit := sum_stored d rows
  have hlast := @sum_stored_last d rows
  constructor
  · intro h
    obtain ⟨sum, hsum, hexact⟩ := h
    obtain ⟨hparts, rfl⟩ := sum_column_ok.mp hsum
    have hrange := hparts (rows.map d.stored).length
    rw [List.take_length] at hrange
    rw [to_nat_clamped hrange.2] at hexact
    have hfits : lastSum d rows < 2 ^ 63 := by
      clear hsplit hlast hparts hsum
      omega
    rw [hlast hfits] at hsplit
    refine ⟨hfits, ?_, hparts⟩
    clear hlast hparts hsum
    omega
  · intro h
    have hfits := h.fits
    have hothers := h.others
    have hrange := (h.parts (rows.map d.stored).length).2
    rw [List.take_length] at hrange
    rw [hlast hfits] at hsplit
    refine ⟨_, sum_column_ok.mpr ⟨h.parts, rfl⟩, ?_⟩
    rw [to_nat_clamped hrange]
    clear hlast h
    omega

theorem mem_followed {rows : List TrafficSnapshot} {row : TrafficSnapshot}
    (h : row ∈ followedReadings rows) : row ∈ rows := by
  obtain ⟨peerId, -, hrow⟩ := List.mem_flatMap.mp h
  exact (List.mem_filter.mp (mem_sorted_by.mp (List.dropLast_subset _ hrow))).1

/-- For counters that a signed column holds, the other readings have to be zero. -/
theorem counts_once_iff {d : Direction} {rows : List TrafficSnapshot}
    (hsigned : ∀ row ∈ rows, (d.counter row).toNat < 2 ^ 63) :
    CountsOnce d rows ↔ lastSum d rows < 2 ^ 63 ∧
      ∀ row ∈ followedReadings rows, d.counter row = 0 := by
  have hstored : ∀ row ∈ rows, d.stored row = (d.counter row).toNat :=
    fun row hrow => (stored_eq_iff d row).mpr (hsigned row hrow)
  have hnonneg : ∀ x ∈ rows.map d.stored, 0 ≤ x := by
    intro x hx
    obtain ⟨row, hrow, rfl⟩ := List.mem_map.mp hx
    rw [hstored row hrow]
    exact Int.natCast_nonneg _
  have hfollowed : ∀ x ∈ (followedReadings rows).map d.stored, 0 ≤ x := by
    intro x hx
    obtain ⟨row, hrow, rfl⟩ := List.mem_map.mp hx
    exact hnonneg _ (List.mem_map_of_mem (mem_followed hrow))
  have hsum := List.sum_nonneg hfollowed
  constructor
  · intro h
    have hzero : ((followedReadings rows).map d.stored).sum = 0 :=
      h.others.elim id fun hle => Int.le_antisymm hle.2 hsum
    refine ⟨h.fits, fun row hrow => ?_⟩
    have hrowZero := List.all_zero_of_le_zero_le_of_sum_eq_zero hfollowed hzero
      (List.mem_map_of_mem hrow)
    rw [hstored row (mem_followed hrow)] at hrowZero
    exact UInt64.toNat_inj.mp (Int.ofNat_eq_zero.mp hrowZero)
  · intro h
    have hzero : ((followedReadings rows).map d.stored).sum = 0 := by
      refine List.sum_eq_zero fun x hx => ?_
      obtain ⟨row, hrow, rfl⟩ := List.mem_map.mp hx
      rw [hstored row (mem_followed hrow), h.2 row hrow]
      rfl
    refine ⟨h.1, .inl hzero, fun n => ?_⟩
    have hsplit := sum_stored d rows
    rw [hzero, add_zero, sum_stored_last h.1] at hsplit
    -- a part of a column of numbers that are not negative is at most the whole
    have hpart : ((rows.map d.stored).take n).sum ≤ (rows.map d.stored).sum := by
      rw [← List.sum_take_add_sum_drop (rows.map d.stored) n]
      exact Int.le_add_of_nonneg_right
        (List.sum_nonneg fun x hx => hnonneg x (List.mem_of_mem_drop hx))
    have hpos : 0 ≤ ((rows.map d.stored).take n).sum :=
      List.sum_nonneg fun x hx => hnonneg x (List.mem_of_mem_take hx)
    have hfits := h.1
    clear hfollowed hnonneg hstored
    omega

/-! ## All minutes -/

/-- The counter of a point. -/
def Direction.ofPoint (d : Direction) (point : SeriesPoint) : UInt64 :=
  match d with
  | .tx => point.tx
  | .rx => point.rx

/-- The point of a minute. -/
def seriesPoint (traffic : List TrafficSnapshot) (since bucket : DateTime) :
    Except String SeriesPoint := do
  let tx ← sumColumn ((readings traffic since bucket).map Direction.tx.stored)
  let rx ← sumColumn ((readings traffic since bucket).map Direction.rx.stored)
  return ⟨bucket, UInt64.ofNat tx.toNat, UInt64.ofNat rx.toNat⟩

/-- The minutes of the snapshots since a time. -/
def minutes (traffic : List TrafficSnapshot) (since : DateTime) : List DateTime :=
  sortedBy id ((traffic.filter (since ≤ ·.recordedAt)).map fun row =>
    minuteOf row.recordedAt).dedup

theorem series_totals_eq (traffic : List TrafficSnapshot) (since : DateTime) :
    seriesTotals traffic since = (minutes traffic since).mapM (seriesPoint traffic since) := by
  unfold seriesTotals seriesPoint Direction.stored
  rfl

theorem mem_minutes {traffic : List TrafficSnapshot} {since bucket : DateTime} :
    bucket ∈ minutes traffic since ↔
      ∃ row ∈ traffic, since ≤ row.recordedAt ∧ minuteOf row.recordedAt = bucket := by
  rw [minutes, mem_sorted_by, List.mem_dedup, List.mem_map]
  refine exists_congr fun row => ?_
  rw [List.mem_filter, decide_eq_true_eq, and_assoc]

theorem nodup_minutes (traffic : List TrafficSnapshot) (since : DateTime) :
    (minutes traffic since).Nodup :=
  (List.perm_insertionSort _ _).nodup_iff.mpr (List.nodup_dedup _)

theorem readings_eq_nil {traffic : List TrafficSnapshot} {since bucket : DateTime}
    (h : bucket ∉ minutes traffic since) : readings traffic since bucket = [] := by
  refine List.filter_eq_nil_iff.mpr fun row hrow hbucket => h (mem_minutes.mpr ?_)
  obtain ⟨hstored, hsince⟩ := List.mem_filter.mp hrow
  exact ⟨row, hstored, of_decide_eq_true hsince, of_decide_eq_true hbucket⟩

theorem counts_once_nil (d : Direction) : CountsOnce d [] :=
  (counts_once_iff fun row hrow => by cases hrow).mpr
    ⟨Nat.two_pow_pos 63, fun row hrow => by cases hrow⟩

/-- Every minute of the series has a snapshot, every minute with one is there once, and its sums are
those of the last snapshots of the peers in it. -/
structure MinuteTotals (traffic : List TrafficSnapshot) (since : DateTime)
    (series : List SeriesPoint) : Prop where
  buckets : ∀ bucket, bucket ∈ series.map SeriesPoint.bucket ↔
    ∃ row ∈ traffic, since ≤ row.recordedAt ∧ minuteOf row.recordedAt = bucket
  nodup : (series.map SeriesPoint.bucket).Nodup
  totals : ∀ point ∈ series, ∀ d : Direction,
    (d.ofPoint point).toNat = lastSum d (readings traffic since point.bucket)

/-- The point of a minute has the sums of the last snapshots exactly if the readings of the minute
count every peer once. -/
theorem series_point_iff (traffic : List TrafficSnapshot) (since bucket : DateTime) :
    (∃ point, seriesPoint traffic since bucket = .ok point ∧
        ∀ d : Direction, (d.ofPoint point).toNat = lastSum d (readings traffic since bucket)) ↔
      ∀ d, CountsOnce d (readings traffic since bucket) := by
  constructor
  · intro h d
    obtain ⟨point, hpoint, hexact⟩ := h
    obtain ⟨tx, htx, hpoint⟩ := Outcome.bind_ok.mp hpoint
    obtain ⟨rx, hrx, hpoint⟩ := Outcome.bind_ok.mp hpoint
    cases hpoint
    refine (column_exact_iff d _).mp ?_
    cases d with
    | tx => exact ⟨tx, htx, hexact .tx⟩
    | rx => exact ⟨rx, hrx, hexact .rx⟩
  · intro h
    obtain ⟨tx, htx, hexactTx⟩ := (column_exact_iff .tx _).mpr (h .tx)
    obtain ⟨rx, hrx, hexactRx⟩ := (column_exact_iff .rx _).mpr (h .rx)
    refine ⟨⟨bucket, .ofNat tx.toNat, .ofNat rx.toNat⟩, ?_, fun d => ?_⟩
    · unfold seriesPoint
      rw [htx, hrx]
      rfl
    · cases d with
      | tx => exact hexactTx
      | rx => exact hexactRx

theorem series_point_bucket {traffic : List TrafficSnapshot} {since bucket : DateTime}
    {point : SeriesPoint} (h : seriesPoint traffic since bucket = .ok point) :
    point.bucket = bucket := by
  obtain ⟨tx, -, h⟩ := Outcome.bind_ok.mp h
  obtain ⟨rx, -, h⟩ := Outcome.bind_ok.mp h
  cases h
  rfl

/-- The series exists and is exact. -/
def MinutesExact (s : Site) (since : DateTime) : Prop :=
  ∃ series, eval (serve .none) (SqliteTrafficRepository.seriesTotals since) s = (.ok series, s) ∧
    MinuteTotals s.host.db.traffic since series

theorem eval_series_totals {s : Site} {since : DateTime} {series : List SeriesPoint} :
    eval (serve .none) (SqliteTrafficRepository.seriesTotals since) s = (.ok series, s) ↔
      seriesTotals s.host.db.traffic since = .ok series := by
  rw [SqliteTrafficRepository.seriesTotals, eval_or_else]
  simp only [exec_request, serve, Outage.run, Outage.none, Prod.mk.injEq, and_true]
  exact Outcome.map_error_ok

/-- Every minute of the series is the sum of the last snapshots of the peers in it if and only if
the readings of every minute count every peer once. -/
theorem minutes_exact_iff (s : Site) (since : DateTime) :
    MinutesExact s since ↔
      ∀ bucket d, CountsOnce d (readings s.host.db.traffic since bucket) := by
  have heval : ∀ series, eval (serve .none) (SqliteTrafficRepository.seriesTotals since) s =
      (.ok series, s) ↔ List.Forall₂ (fun bucket point =>
        seriesPoint s.host.db.traffic since bucket = .ok point)
          (minutes s.host.db.traffic since) series := by
    intro series
    rw [← Outcome.map_m_ok, ← series_totals_eq, eval_series_totals]
  unfold MinutesExact
  simp only [heval]
  constructor
  · intro h bucket
    obtain ⟨series, hseries, htotals⟩ := h
    by_cases hmem : bucket ∈ minutes s.host.db.traffic since
    · obtain ⟨point, hpoint, heq⟩ := Outcome.exists_of_forall_2 hseries hmem
      refine (series_point_iff _ _ _).mp ⟨point, heq, fun d => ?_⟩
      rw [htotals.totals point hpoint d, series_point_bucket heq]
    · intro d
      rw [readings_eq_nil hmem]
      exact counts_once_nil d
  · intro h
    have hpoint : ∀ bucket, ∃ point, seriesPoint s.host.db.traffic since bucket = .ok point ∧
        ∀ d : Direction, (d.ofPoint point).toNat =
          lastSum d (readings s.host.db.traffic since bucket) :=
      fun bucket => (series_point_iff _ _ _).mpr (h bucket)
    choose point hok hexact using hpoint
    refine ⟨(minutes s.host.db.traffic since).map point, ?_, ?_⟩
    · rw [List.forall₂_map_right_iff, List.forall₂_same]
      exact fun bucket _ => hok bucket
    · have hbuckets : ((minutes s.host.db.traffic since).map point).map SeriesPoint.bucket =
          minutes s.host.db.traffic since := by
        rw [List.map_map]
        exact List.map_id'' (fun bucket => series_point_bucket (hok bucket)) _
      refine ⟨fun bucket => ?_, ?_, fun p hp d => ?_⟩
      · rw [hbuckets]
        exact mem_minutes
      · rw [hbuckets]
        exact nodup_minutes _ _
      · obtain ⟨bucket, -, rfl⟩ := List.mem_map.mp hp
        rw [hexact bucket d, series_point_bucket (hok bucket)]

/-- A site with two readings of one peer in one minute. -/
def polledTwice : Site :=
  let db : Db := .single (.plain 0 "wg0" none none) (.plain 0 0 "laptop" none none)
    [⟨⟨0⟩, 100, 0, none, ⟨0⟩⟩, ⟨⟨0⟩, 150, 0, none, ⟨30000000000⟩⟩]
  { Site.fresh .default with host := { World.fresh [] with db } }

/-- A peer that has sent 150 bytes counts 250, since 100 of them have been read before. -/
theorem minute_counts_twice :
    ((seriesTotals polledTwice.host.db.traffic ⟨0⟩).toOption.map fun series =>
        series.map SeriesPoint.tx) = some [250] ∧
      ¬ MinutesExact polledTwice ⟨0⟩ := by
  have hshown : (seriesTotals polledTwice.host.db.traffic ⟨0⟩).toOption.map (fun series =>
      series.map fun point => (point.bucket.nanos, point.tx)) = some [(0, 250)] := by
    decide +kernel
  have honce : lastSum .tx (readings polledTwice.host.db.traffic ⟨0⟩ ⟨0⟩) = 150 := by
    decide +kernel
  refine ⟨by decide +kernel, fun h => ?_⟩
  obtain ⟨series, heval, htotals⟩ := h
  rw [eval_series_totals] at heval
  rw [heval] at hshown
  have hpoints : series.map (fun point => (point.bucket.nanos, point.tx)) = [(0, 250)] :=
    Option.some.inj hshown
  obtain ⟨point, rest, rfl, hpoint, -⟩ := List.map_eq_cons_iff.mp hpoints
  obtain ⟨hbucket, htx⟩ := Prod.mk.inj hpoint
  have htwice := htotals.totals point List.mem_cons_self .tx
  have hzero : point.bucket = ⟨0⟩ := congrArg DateTime.mk hbucket
  rw [hzero, honce, Direction.ofPoint, htx] at htwice
  cases htwice

end Wireforge
