import Wireforge.Lib.Words
import Wireforge.Web.Interfaces
import Wireforge.Web.Peers

/-!
# Fields that are shown and read back

The edit pages show the values of a row as texts, and the forms that come back are read again. A
text without whitespace and commas survives the trimming of the parsers and a place in a list with
commas. Numbers, networks and keys are shown as such texts; what else a page may show is stated
for each kind of field.
-/

namespace Wireforge

/-! ## Lists with commas -/

namespace IpAddr

variable {sep c : Char} {chars piece : List Char}

theorem split_at_ne_nil (sep : Char) (chars : List Char) : splitAt sep chars ≠ [] := by
  cases chars with
  | nil => exact List.cons_ne_nil _ _
  | cons c rest =>
      unfold splitAt
      split
      · exact List.cons_ne_nil _ _
      · split <;> exact List.cons_ne_nil _ _

/-- A character that is no separator joins the first piece. -/
theorem split_at_cons_of_ne (h : c ≠ sep) (rest : List Char) :
    ∃ first others, splitAt sep rest = first :: others ∧
      splitAt sep (c :: rest) = (c :: first) :: others := by
  obtain ⟨first, others, heq⟩ := List.exists_cons_of_ne_nil (split_at_ne_nil sep rest)
  refine ⟨first, others, heq, ?_⟩
  rw [splitAt, if_neg h, heq]

/-- The first piece ends at the first separator. -/
theorem split_at_append (h : sep ∉ piece) (rest : List Char) :
    splitAt sep (piece ++ sep :: rest) = piece :: splitAt sep rest := by
  induction piece with
  | nil => rw [List.nil_append, splitAt, if_pos rfl]
  | cons c piece ih =>
      obtain ⟨hc, hpiece⟩ := List.ne_and_not_mem_of_not_mem_cons h
      obtain ⟨first, others, heq, hcons⟩ := split_at_cons_of_ne (Ne.symm hc) (piece ++ sep :: rest)
      rw [ih hpiece] at heq
      obtain ⟨rfl, rfl⟩ := List.cons.inj heq
      exact hcons

/-- A text without separators is one piece. -/
theorem split_at_self (h : sep ∉ piece) : splitAt sep piece = [piece] := by
  induction piece with
  | nil => rfl
  | cons c piece ih =>
      obtain ⟨hc, hpiece⟩ := List.ne_and_not_mem_of_not_mem_cons h
      obtain ⟨first, others, heq, hcons⟩ := split_at_cons_of_ne (Ne.symm hc) piece
      rw [ih hpiece] at heq
      obtain ⟨rfl, rfl⟩ := List.cons.inj heq
      exact hcons

/-- No piece has a separator. -/
theorem not_mem_of_split (h : piece ∈ splitAt sep chars) : sep ∉ piece := by
  induction chars generalizing piece with
  | nil =>
      rw [List.mem_singleton.mp h]
      exact List.not_mem_nil
  | cons c rest ih =>
      by_cases hc : c = sep
      · rw [splitAt, if_pos hc] at h
        rcases List.mem_cons.mp h with rfl | h
        · exact List.not_mem_nil
        · exact ih h
      · obtain ⟨first, others, heq, hcons⟩ := split_at_cons_of_ne hc rest
        rw [hcons] at h
        rcases List.mem_cons.mp h with rfl | h
        · refine List.not_mem_cons_of_ne_of_not_mem (Ne.symm hc) (ih ?_)
          rw [heq]
          exact List.mem_cons_self
        · exact ih (heq ▸ List.mem_cons_of_mem _ h)

end IpAddr

/-- A space in front of a list is trimmed away. -/
theorem trim_split_space (s : String) :
    (splitCommas (" " ++ s)).map Text.trim = (splitCommas s).map Text.trim := by
  unfold splitCommas
  obtain ⟨first, others, heq, hcons⟩ :=
    IpAddr.split_at_cons_of_ne (show ' ' ≠ ',' by decide) s.toList
  rw [String.toList_append, show " ".toList = [' '] from rfl, List.singleton_append, hcons, heq]
  simp only [List.map_cons, Text.trim, String.toList_ofList, Text.trim_chars_space]

/-- The pieces of a list of texts without commas are these texts, once they are trimmed. -/
theorem trim_split_joined {texts : List String} (hne : texts ≠ [])
    (h : ∀ text ∈ texts, ',' ∉ text.toList) :
    (splitCommas (", ".intercalate texts)).map Text.trim = texts.map Text.trim := by
  induction texts with
  | nil => exact absurd rfl hne
  | cons text rest ih =>
      have htext := h text List.mem_cons_self
      cases rest with
      | nil =>
          unfold splitCommas
          rw [String.intercalate_singleton, IpAddr.split_at_self htext]
          simp
      | cons next rest =>
          have hrest := ih (List.cons_ne_nil _ _) fun text hmem =>
            h text (List.mem_cons_of_mem _ hmem)
          have hjoined : (", ".intercalate (text :: next :: rest)).toList =
              text.toList ++ ',' :: (" " ++ ", ".intercalate (next :: rest)).toList := by
            rw [String.intercalate_cons_cons]
            simp
          have hsplit : splitCommas (", ".intercalate (text :: next :: rest)) =
              text :: splitCommas (" " ++ ", ".intercalate (next :: rest)) := by
            unfold splitCommas
            rw [hjoined, IpAddr.split_at_append htext, List.map_cons, String.ofList_toList]
          rw [hsplit, List.map_cons, trim_split_space, hrest]
          rfl

/-- A text that a list with commas keeps as it is. -/
def ListEntry (text : String) : Prop :=
  text.isEmpty = false ∧ Text.trim text = text ∧ ',' ∉ text.toList

/-- A list with commas gives back the texts it was made of exactly if it keeps each of them. -/
theorem list_round_trip_iff {texts : List String} :
    ((splitCommas (", ".intercalate texts)).map Text.trim).filter (fun s => !s.isEmpty) = texts ↔
      ∀ text ∈ texts, ListEntry text := by
  constructor
  · intro heq text htext
    rw [← heq] at htext
    obtain ⟨hmem, hne⟩ := List.mem_filter.mp htext
    obtain ⟨piece, hpiece, rfl⟩ := List.mem_map.mp hmem
    obtain ⟨chars, hchars, rfl⟩ := List.mem_map.mp hpiece
    refine ⟨by simpa using hne, Text.trim_trim _, fun hcomma => ?_⟩
    rw [Text.trim, String.toList_ofList, String.toList_ofList] at hcomma
    exact IpAddr.not_mem_of_split hchars (Text.mem_of_mem_trim_chars hcomma)
  · intro h
    by_cases hnil : texts = []
    · subst hnil
      decide
    · rw [trim_split_joined hnil fun text htext => (h text htext).2.2]
      have htrim : texts.map Text.trim = texts :=
        (List.map_congr_left fun text htext => (h text htext).2.1).trans (List.map_id _)
      rw [htrim, List.filter_eq_self]
      intro text htext
      rw [(h text htext).1]
      rfl

/-! ## Plain texts -/

/-- Neither whitespace nor a comma. -/
def PlainChar (c : Char) : Prop :=
  Text.isWhitespace c = false ∧ c ≠ ','

instance (c : Char) : Decidable (PlainChar c) :=
  inferInstanceAs (Decidable (_ ∧ _))

/-- A text without whitespace and commas. -/
def Plain (s : String) : Prop :=
  ∀ c ∈ s.toList, PlainChar c

/-- A text of at least one character, without whitespace and commas. -/
structure PlainText (s : String) : Prop where
  nonempty : s ≠ ""
  plain : Plain s

namespace PlainText

variable {s : String}

theorem trim (h : PlainText s) : Text.trim s = s := by
  rw [Text.trim, Text.trim_chars_self fun c hc => (h.plain c hc).1, String.ofList_toList]

theorem not_blank (h : PlainText s) : (Text.trim s).isEmpty = false := by
  rw [h.trim]
  exact Bool.eq_false_iff.mpr fun hempty => h.nonempty (String.isEmpty_iff.mp hempty)

theorem no_comma (h : PlainText s) : ',' ∉ s.toList :=
  fun hc => (h.plain ',' hc).2 rfl

end PlainText

/-- A property that the characters have with which numbers, addresses and keys are written. -/
structure Spelling (P : Char → Prop) : Prop where
  digit : ∀ n < 16, P n.digitChar
  dot : P '.'
  colon : P ':'
  slash : P '/'
  base64 : ∀ n < 64, P (Base64.digit n)
  pad : P '='

/-- Every character of a text has the property. -/
def Consists (P : Char → Prop) (s : String) : Prop :=
  ∀ c ∈ s.toList, P c

namespace Consists

variable {P : Char → Prop} {s t : String}

theorem append (hs : Consists P s) (ht : Consists P t) : Consists P (s ++ t) := by
  intro c hc
  rw [String.toList_append] at hc
  exact (List.mem_append.mp hc).elim (hs c) (ht c)

theorem intercalate {sep : String} {texts : List String} (hsep : Consists P sep)
    (htexts : ∀ text ∈ texts, Consists P text) : Consists P (sep.intercalate texts) := by
  induction texts with
  | nil => exact fun c hc => absurd hc List.not_mem_nil
  | cons text rest ih =>
      have htext := htexts text List.mem_cons_self
      cases rest with
      | nil =>
          rw [String.intercalate_singleton]
          exact htext
      | cons next rest =>
          rw [String.intercalate_cons_cons]
          exact (htext.append hsep).append
            (ih fun other hother => htexts other (List.mem_cons_of_mem _ hother))

/-- A text of one character. -/
theorem single {text : String} {d : Char} (htext : text.toList = [d]) (hd : P d) :
    Consists P text := by
  intro c hc
  rw [htext, List.mem_singleton] at hc
  exact hc ▸ hd

end Consists

namespace Spelling

variable {P : Char → Prop} (h : Spelling P)

include h

theorem to_digits {base : Nat} (hbase : 1 < base) (hlimit : base ≤ 16) (n : Nat) :
    ∀ c ∈ Nat.toDigits base n, P c := by
  induction n using Nat.strongRecOn with
  | ind n ih =>
      intro c hc
      by_cases hlt : n < base
      · rw [Nat.toDigits_of_lt_base hlt] at hc
        rw [List.mem_singleton.mp hc]
        exact h.digit n (by omega)
      · rw [Nat.toDigits_of_base_le hbase (by omega)] at hc
        rcases List.mem_append.mp hc with hc | hc
        · exact ih (n / base) (Nat.div_lt_self (by omega) hbase) c hc
        · rw [List.mem_singleton.mp hc]
          have hmod := Nat.mod_lt n (show 0 < base by omega)
          exact h.digit _ (by omega)

theorem nat (n : Nat) : Consists P (toString n) := by
  intro c hc
  rw [show (toString n).toList = Nat.toDigits 10 n from Nat.toList_repr] at hc
  exact h.to_digits (by decide) (by decide) n c hc

theorem display4 (bits : BitVec 32) : Consists P (IpAddr.display4 bits) := by
  have hdot : Consists P "." := .single rfl h.dot
  exact (((((((h.nat _).append hdot).append (h.nat _)).append hdot).append (h.nat _)).append
    hdot).append (h.nat _))

theorem groups (groups : List Nat) : Consists P (IpAddr.displayGroups groups) := by
  refine .intercalate (.single rfl h.colon) fun text htext => ?_
  obtain ⟨n, -, rfl⟩ := List.mem_map.mp htext
  intro c hc
  rw [IpAddr.hex, String.toList_ofList] at hc
  exact h.to_digits (by decide) (by decide) n c hc

theorem display6 (bits : BitVec 128) : Consists P (IpAddr.display6 bits) := by
  have hcolon : Consists P ":" := .single rfl h.colon
  have helided : Consists P "::" := hcolon.append hcolon
  have hf : Consists P "f" := .single rfl (h.digit 15 (by decide))
  have hmapped : Consists P "::ffff:" :=
    ((((helided.append hf).append hf).append hf).append hf).append hcolon
  unfold IpAddr.display6
  split
  · exact hmapped.append (h.display4 _)
  · simp only
    split
    · exact ((h.groups _).append helided).append (h.groups _)
    · exact h.groups _

theorem net (net : IpNet) : Consists P net.display := by
  have haddr : Consists P net.addr.display := by
    cases net with
    | v4 addr len => exact h.display4 addr
    | v6 addr len => exact h.display6 addr
  unfold IpNet.display
  exact (haddr.append (.single rfl h.slash)).append (h.nat _)

theorem encode (bytes : List UInt8) : ∀ c ∈ Base64.encode bytes, P c := by
  induction bytes using Base64.encode.induct with
  | case1 => exact fun c hc => absurd hc List.not_mem_nil
  | case2 x =>
      have hx := x.toNat_lt
      simp only [Base64.encode, List.forall_mem_cons]
      exact ⟨h.base64 _ (by omega), h.base64 _ (by omega), h.pad, h.pad, by simp⟩
  | case3 x y =>
      have hx := x.toNat_lt
      have hy := y.toNat_lt
      simp only [Base64.encode, List.forall_mem_cons]
      exact ⟨h.base64 _ (by omega), h.base64 _ (by omega), h.base64 _ (by omega), h.pad, by simp⟩
  | case4 x y z rest ih =>
      have hx := x.toNat_lt
      have hy := y.toNat_lt
      have hz := z.toNat_lt
      simp only [Base64.encode, List.forall_mem_cons]
      exact ⟨h.base64 _ (by omega), h.base64 _ (by omega), h.base64 _ (by omega),
        h.base64 _ (by omega), ih⟩

theorem key (key : KeyText) : Consists P key.text := by
  intro c hc
  rw [← key.encode_key, encodeKey, String.toList_ofList] at hc
  exact h.encode _ c hc

end Spelling

theorem plain_spelling : Spelling PlainChar where
  digit := by decide
  dot := by decide
  colon := by decide
  slash := by decide
  base64 := by decide
  pad := by decide

theorem PlainText.nat (n : Nat) : PlainText (toString n) where
  nonempty h := by
    have hnil : Nat.toDigits 10 n = [] := by
      rw [← show (toString n).toList = Nat.toDigits 10 n from Nat.toList_repr, h]
      rfl
    exact Nat.toDigits_ne_nil hnil
  plain := plain_spelling.nat n

/-- The text of a network is plain. -/
theorem PlainText.net (net : IpNet) : PlainText net.display where
  nonempty h := by
    have hlength := congrArg String.length h
    simp [IpNet.display] at hlength
  plain := plain_spelling.net net

/-- The text of a key is plain. -/
theorem PlainText.key (key : KeyText) : PlainText key.text where
  nonempty h := by
    have hvalid := key.valid
    rw [h] at hvalid
    exact absurd hvalid (by decide)
  plain := plain_spelling.key key

/-! ## Optional fields -/

/-- A number is read back from its digits. -/
theorem parse_u16_shown (n : UInt16) : parseU16 (toString n) = some n := by
  have hread : parseUnsigned (2 ^ 16) (toString n.toNat) = some n.toNat :=
    parse_unsigned_display n.toNat_lt
  show (parseUnsigned (2 ^ 16) (toString n.toNat)).map UInt16.ofNat = some n
  rw [hread, Option.map_some, UInt16.ofNat_toNat]

theorem PlainText.u16 (n : UInt16) : PlainText (toString n) :=
  .nat n.toNat

/-- A text that a field keeps as it is. -/
def FieldText (text : String) : Prop :=
  text.isEmpty = false ∧ Text.trim text = text

theorem blank_to_none_shown {value : Option String} (h : ∀ text ∈ value, FieldText text) :
    blankToNone (value.getD "") = value := by
  cases value with
  | none => decide
  | some text =>
      obtain ⟨hne, htrim⟩ := h text rfl
      show blankToNone text = some text
      rw [blankToNone, htrim, hne]
      rfl

/-- A list that begins with a plain text is not blank. -/
theorem joined_not_blank {text : String} (h : PlainText text) (rest : List String) :
    (Text.trim (", ".intercalate (text :: rest))).isEmpty = false := by
  obtain ⟨c, chars, htext⟩ : ∃ c chars, text.toList = c :: chars :=
    List.exists_cons_of_ne_nil fun hnil => h.nonempty (String.toList_eq_nil_iff.mp hnil)
  have hc : c ∈ text.toList := htext ▸ List.mem_cons_self
  refine Text.not_blank_of_mem ?_ (h.plain c hc).1
  cases rest with
  | nil =>
      rw [String.intercalate_singleton]
      exact hc
  | cons next rest =>
      rw [String.intercalate_cons_cons]
      simp [hc]

namespace Routes.Peers

variable {crates : WebCrates}

theorem parse_keepalive_shown (secs : Option UInt16) :
    parseKeepalive ((secs.map toString).getD "") = .ok secs := by
  cases secs with
  | none => decide
  | some n =>
      have htext := PlainText.u16 n
      show parseKeepalive (toString n) = .ok (some n)
      rw [parseKeepalive, htext.not_blank, htext.trim, parse_u16_shown]
      rfl

/-- The text of an address, as the page stores it. -/
def DnsText (text : String) : Prop :=
  Text.trim text = text ∧ (IpAddr.parse text).isSome = true

theorem parse_dns_shown {dns : Option String} (h : ∀ text ∈ dns, DnsText text) :
    parseDns (dns.getD "") = .ok dns := by
  cases dns with
  | none => decide
  | some text =>
      obtain ⟨htrim, hparse⟩ := h text rfl
      have hne : text.isEmpty = false := by
        refine Bool.eq_false_iff.mpr fun hempty => ?_
        rw [String.isEmpty_iff.mp hempty] at hparse
        exact absurd hparse (by decide)
      show parseDns text = .ok (some text)
      rw [parseDns, htrim, hne, hparse]
      rfl

/-- What the page reads for an address, it can show. -/
theorem dns_text_of_parse {s : String} {dns : Option String} (h : parseDns s = .ok dns) :
    ∀ text ∈ dns, DnsText text := by
  unfold parseDns at h
  split_ifs at h with hblank hparse
  · obtain rfl := Except.ok.inj h
    exact nofun
  · obtain rfl := Except.ok.inj h
    intro text htext
    obtain rfl := Option.some.inj htext
    exact ⟨Text.trim_trim s, by rw [hparse]⟩

theorem parse_interface_shown {id : Id InterfaceMarker}
    (h : crates.parseUuid id.display = some id.value) :
    parseInterface crates id.display = .ok id := by
  rw [parseInterface, h]

/-- The networks of a peer are read back if the library reads each of them back. -/
theorem require_allowed_shown {nets : List IpNet} (hne : nets ≠ [])
    (h : ∀ net ∈ nets, crates.parseIpNet net.display = some net) :
    requireAllowed crates (displayNets nets) = .ok nets := by
  have htrim : (nets.map IpNet.display).map Text.trim = nets.map IpNet.display := by
    rw [List.map_map]
    exact List.map_congr_left fun net _ => (PlainText.net net).trim
  have hpieces : (splitCommas (displayNets nets)).map Text.trim = nets.map IpNet.display := by
    rw [displayNets, trim_split_joined (fun hnil => hne (List.map_eq_nil_iff.mp hnil)), htrim]
    intro text htext
    obtain ⟨net, -, rfl⟩ := List.mem_map.mp htext
    exact (PlainText.net net).no_comma
  have hread : (splitCommas (displayNets nets)).mapM
      (fun net => crates.parseIpNet (Text.trim net)) = some nets := by
    have hall : ∀ l : List IpNet, (∀ net ∈ l, crates.parseIpNet net.display = some net) →
        (l.map IpNet.display).mapM crates.parseIpNet = some l := by
      intro l hl
      induction l with
      | nil => rfl
      | cons net rest ih =>
          rw [List.map_cons, List.mapM_cons, hl net List.mem_cons_self,
            ih fun net hnet => hl net (List.mem_cons_of_mem _ hnet)]
          rfl
    rw [← hall nets h, ← hpieces, List.mapM_map]
    rfl
  have hblank : (Text.trim (displayNets nets)).isEmpty = false := by
    obtain ⟨net, rest, rfl⟩ := List.exists_cons_of_ne_nil hne
    exact joined_not_blank (.net net) _
  rw [requireAllowed, parseAllowed, hblank, hread]
  cases nets with
  | nil => exact absurd rfl hne
  | cons net rest => rfl

end Routes.Peers

namespace Routes.Interfaces

variable {crates : WebCrates}

theorem parse_mtu_shown (size : Option UInt16) :
    parseMtu ((size.map toString).getD "") = .ok size := by
  cases size with
  | none => decide
  | some n =>
      have htext := PlainText.u16 n
      show parseMtu (toString n) = .ok (some n)
      rw [parseMtu, htext.not_blank, htext.trim, parse_u16_shown]
      rfl

theorem parse_listen_port_shown {port : UInt16} (h : 0 < port) :
    parseListenPort (toString port) = .ok port := by
  rw [parseListenPort, parse_u16_shown]
  exact if_pos h

theorem parse_cidr_shown {cidr : Option IpNet} {message : String}
    (h : ∀ net ∈ cidr, crates.parseIpNet net.display = some net) :
    parseCidr crates message ((cidr.map IpNet.display).getD "") = .ok cidr := by
  cases cidr with
  | none => rfl
  | some net =>
      have htext := PlainText.net net
      show parseCidr crates message net.display = .ok (some net)
      rw [parseCidr, htext.not_blank, htext.trim, h net rfl]
      rfl

end Routes.Interfaces

end Wireforge
