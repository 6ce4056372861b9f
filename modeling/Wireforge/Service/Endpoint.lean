import Wireforge.Domain.Parse
import Wireforge.Service.PeerConf

/-!
# Endpoints

What a server's address denotes, and the endpoints that clients accept. An address with a colon is
taken over as it is, so that the port of the interface is missing after an IPv6 address that names
no port: `endpoint_denotes_iff`.
-/

namespace Wireforge

namespace Endpoint

/-- The host of an endpoint. -/
inductive Host where
  | name (chars : List Char)
  | ip (addr : IpAddr)
  deriving DecidableEq

/-- A character of a host name or of an IPv4 address. -/
def HostChar (c : Char) : Bool :=
  c.isAlphanum || c = '-' || c = '.' || c = '_'

/-- A host name or an IPv4 address. -/
def Plain (host : List Char) : Prop :=
  host ≠ [] ∧ host.all HostChar = true

instance (host : List Char) : Decidable (Plain host) :=
  inferInstanceAs (Decidable (_ ∧ _))

/-- An IPv4 address where the text is one, and a name elsewhere. -/
def plainHost (host : List Char) : Host :=
  match IpAddr.parseV4 host with
  | some bits => .ip (.v4 bits)
  | none => .name host

/-- Read a port: decimal digits without a sign. -/
def readPort (digits : List Char) : Option UInt16 :=
  if digits.all Char.isDigit then parseU16 (String.ofList digits) else none

/-- The host that a text denotes, and the port if it names one. A text with a port is what clients
accept: IPv6 addresses stand in brackets. -/
inductive Denotes : List Char → Host → Option UInt16 → Prop where
  | plain (host : List Char) (hplain : Plain host) : Denotes host (plainHost host) none
  | plainPort (host digits : List Char) (port : UInt16) (hplain : Plain host)
      (hport : readPort digits = some port) :
      Denotes (host ++ ':' :: digits) (plainHost host) (some port)
  | bracketed (text : List Char) (addr : BitVec 128) (haddr : IpAddr.parseV6 text = some addr) :
      Denotes ('[' :: text ++ [']']) (.ip (.v6 addr)) none
  | bracketedPort (text digits : List Char) (addr : BitVec 128) (port : UInt16)
      (haddr : IpAddr.parseV6 text = some addr) (hport : readPort digits = some port) :
      Denotes ('[' :: text ++ ']' :: ':' :: digits) (.ip (.v6 addr)) (some port)
  | bare (text : List Char) (addr : BitVec 128) (haddr : IpAddr.parseV6 text = some addr) :
      Denotes text (.ip (.v6 addr)) none

/-! ## Ports -/

/-- A port that is written down is read back. -/
theorem read_port_display (port : UInt16) : readPort (toString port).toList = some port := by
  have htext : (toString port).toList = Nat.toDigits 10 port.toNat := Nat.toList_repr
  have hdigits : (toString port).toList.all Char.isDigit = true := by
    rw [htext]
    exact List.all_eq_true.mpr fun c hc =>
      Nat.isDigit_of_mem_toDigits (by decide) (by decide) hc
  rw [readPort, if_pos hdigits, String.ofList_toList, parseU16]
  rw [show toString port = toString port.toNat from rfl]
  rw [parse_unsigned_display port.toNat_lt, Option.map_some, UInt16.ofNat_toNat]

/-- A port is one or more digits. -/
theorem read_port_digits {digits : List Char} {port : UInt16} (h : readPort digits = some port) :
    digits ≠ [] ∧ ∀ c ∈ digits, c.isDigit = true := by
  unfold readPort at h
  split at h
  · rename_i hall
    refine ⟨?_, List.all_eq_true.mp hall⟩
    intro hnil
    have hnone : parseU16 (String.ofList []) = none := by decide
    rw [hnil, hnone] at h
    cases h
  · cases h

/-! ## IPv6 texts -/

open IpAddr

/-- A character of an IPv6 address. -/
def AddrChar (c : Char) : Prop :=
  (hexValue c).isSome = true ∨ c = ':' ∨ c = '.'

/-- Every character is the separator or lies in a piece. -/
theorem mem_split_at (sep : Char) {c : Char} {chars : List Char} (h : c ∈ chars) :
    c = sep ∨ ∃ piece ∈ splitAt sep chars, c ∈ piece := by
  induction chars with
  | nil => cases h
  | cons d rest ih =>
      by_cases hd : d = sep
      · rw [splitAt, if_pos hd]
        cases List.mem_cons.mp h with
        | inl heq => exact .inl (heq.trans hd)
        | inr hrest =>
            refine (ih hrest).imp_right fun hpiece => ?_
            obtain ⟨piece, hmem, hc⟩ := hpiece
            exact ⟨piece, List.mem_cons_of_mem _ hmem, hc⟩
      · rw [splitAt, if_neg hd]
        cases hsplit : splitAt sep rest with
        | nil =>
            rw [hsplit] at ih
            cases List.mem_cons.mp h with
            | inl heq => exact .inr ⟨[d], List.mem_singleton.mpr rfl, by simp [heq]⟩
            | inr hrest =>
                refine (ih hrest).imp_right fun hpiece => ?_
                obtain ⟨piece, hmem, -⟩ := hpiece
                cases hmem
        | cons first others =>
            rw [hsplit] at ih
            cases List.mem_cons.mp h with
            | inl heq => exact .inr ⟨d :: first, List.mem_cons_self, by simp [heq]⟩
            | inr hrest =>
                refine (ih hrest).imp_right fun hpiece => ?_
                obtain ⟨piece, hmem, hc⟩ := hpiece
                cases List.mem_cons.mp hmem with
                | inl heq =>
                    refine ⟨d :: first, List.mem_cons_self, List.mem_cons_of_mem _ ?_⟩
                    rwa [← heq]
                | inr hmem => exact ⟨piece, List.mem_cons_of_mem _ hmem, hc⟩

/-- There is one piece more than there are separators. -/
theorem length_split_at (sep : Char) (chars : List Char) :
    (splitAt sep chars).length = chars.count sep + 1 := by
  induction chars with
  | nil => rfl
  | cons d rest ih =>
      by_cases hd : d = sep
      · rw [splitAt, if_pos hd, List.length_cons, ih, hd, List.count_cons_self]
      · rw [splitAt, if_neg hd, List.count_cons_of_ne hd, ← ih]
        cases hsplit : splitAt sep rest with
        | nil =>
            rw [hsplit] at ih
            cases ih
        | cons first others => rfl

/-- A decimal digit is a hexadecimal one. -/
theorem addr_char_of_digit {c : Char} (h : c.isDigit = true) : AddrChar c := by
  refine .inl ?_
  have hrange : '0' ≤ c ∧ c ≤ '9' := by
    simpa [Char.isDigit, Char.le_def, UInt32.le_iff_toNat_le] using h
  rw [hexValue, if_pos hrange]
  rfl

/-- A group has hexadecimal digits only. -/
theorem parse_group_chars {piece : List Char} {group : Nat} (h : parseGroup piece = some group) :
    ∀ c ∈ piece, AddrChar c := by
  obtain ⟨values, hvalues, -⟩ := Option.bind_eq_some_iff.mp h
  clear h
  induction piece generalizing values with
  | nil =>
      intro c hc
      cases hc
  | cons d rest ih =>
      rw [List.mapM_cons] at hvalues
      obtain ⟨value, hd, hrest⟩ := Option.bind_eq_some_iff.mp hvalues
      obtain ⟨others, hothers, -⟩ := Option.bind_eq_some_iff.mp hrest
      intro c hc
      cases List.mem_cons.mp hc with
      | inl heq =>
          subst heq
          exact .inl (by rw [hd]; rfl)
      | inr hc => exact ih others hothers c hc

/-- An IPv4 address has digits and dots only. -/
theorem parse_v4_chars {chars : List Char} {bits : BitVec 32} (h : parseV4 chars = some bits) :
    ∀ c ∈ chars, AddrChar c := by
  obtain ⟨octets, hoctets, -⟩ := Option.bind_eq_some_iff.mp h
  have hpieces : ∀ piece ∈ splitAt '.' chars, ∀ c ∈ piece, c.isDigit = true := by
    clear h
    generalize splitAt '.' chars = pieces at hoctets
    induction pieces generalizing octets with
    | nil =>
        intro piece hpiece
        cases hpiece
    | cons first rest ih =>
        rw [List.mapM_cons] at hoctets
        obtain ⟨octet, hfirst, hrest⟩ := Option.bind_eq_some_iff.mp hoctets
        obtain ⟨others, hothers, -⟩ := Option.bind_eq_some_iff.mp hrest
        intro piece hpiece
        cases List.mem_cons.mp hpiece with
        | inl heq =>
            subst heq
            unfold parseOctet at hfirst
            split at hfirst
            · rename_i hshape
              exact List.all_eq_true.mp hshape.2.2.1
            · cases hfirst
        | inr hpiece => exact ih others hothers piece hpiece
  intro c hc
  cases mem_split_at '.' hc with
  | inl hdot => exact .inr (.inr hdot)
  | inr hpiece =>
      obtain ⟨piece, hmem, hc⟩ := hpiece
      exact addr_char_of_digit (hpieces piece hmem c hc)

/-- The groups that are read are at most one more than the pieces, and have address characters
only. -/
theorem parse_groups_spec {v4Allowed : Bool} {pieces : List (List Char)} {groups : List Nat}
    (h : parseGroups v4Allowed pieces = some groups) :
    groups.length ≤ pieces.length + 1 ∧ ∀ piece ∈ pieces, ∀ c ∈ piece, AddrChar c := by
  induction pieces generalizing groups with
  | nil =>
      cases h
      exact ⟨Nat.zero_le _, fun piece hpiece => absurd hpiece List.not_mem_nil⟩
  | cons first rest ih =>
      cases rest with
      | nil =>
          rw [parseGroups] at h
          split at h
          · rename_i group hgroup
            cases h
            refine ⟨by simp, fun piece hpiece => ?_⟩
            obtain rfl := List.mem_singleton.mp hpiece
            exact parse_group_chars hgroup
          · split at h
            · obtain ⟨bits, hbits, rfl⟩ := Option.map_eq_some_iff.mp h
              refine ⟨by simp, fun piece hpiece => ?_⟩
              obtain rfl := List.mem_singleton.mp hpiece
              exact parse_v4_chars hbits
            · cases h
      | cons second others =>
          rw [parseGroups] at h
          · obtain ⟨group, hgroup, h⟩ := Option.bind_eq_some_iff.mp h
            obtain ⟨groups', hgroups, h⟩ := Option.bind_eq_some_iff.mp h
            cases h
            obtain ⟨hlength, hchars⟩ := ih hgroups
            refine ⟨by simp only [List.length_cons] at hlength ⊢; omega, ?_⟩
            intro piece hpiece
            cases List.mem_cons.mp hpiece with
            | inl heq => rw [heq]; exact parse_group_chars hgroup
            | inr hpiece => exact hchars piece hpiece
          · intro heq
            cases heq

/-- The groups of a side are at most two more than its colons, and it has address characters
only. -/
theorem parse_side_spec {v4Allowed : Bool} {chars : List Char} {groups : List Nat}
    (h : parseSide v4Allowed chars = some groups) :
    groups.length ≤ chars.count ':' + 2 ∧ ∀ c ∈ chars, AddrChar c := by
  unfold parseSide at h
  split at h
  · rename_i hnil
    cases h
    subst hnil
    exact ⟨Nat.zero_le _, fun c hc => absurd hc List.not_mem_nil⟩
  · obtain ⟨hlength, hchars⟩ := parse_groups_spec h
    rw [length_split_at] at hlength
    refine ⟨hlength, fun c hc => ?_⟩
    cases mem_split_at ':' hc with
    | inl hcolon => exact .inr (.inl hcolon)
    | inr hpiece =>
        obtain ⟨piece, hmem, hc⟩ := hpiece
        exact hchars piece hmem c hc

/-- A text with a double colon is what stands around it. -/
theorem split_elision_some {chars before after : List Char}
    (h : splitElision chars = some (before, after)) : chars = before ++ ':' :: ':' :: after := by
  induction chars using splitElision.induct generalizing before after with
  | case1 rest =>
      cases h
      rfl
  | case2 c rest hne ih =>
      rw [splitElision] at h
      · obtain ⟨parts, hparts, heq⟩ := Option.map_eq_some_iff.mp h
        cases heq
        rw [ih hparts]
        rfl
      · exact hne
  | case3 => cases h

/-- An IPv6 address has at least two colons, and address characters only. -/
theorem parse_v6_spec {chars : List Char} {addr : BitVec 128} (h : parseV6 chars = some addr) :
    2 ≤ chars.count ':' ∧ ∀ c ∈ chars, AddrChar c := by
  unfold parseV6 at h
  cases helision : splitElision chars with
  | none =>
      rw [helision] at h
      obtain ⟨groups, hgroups, hlength⟩ := Option.bind_eq_some_iff.mp h
      obtain ⟨hcount, hchars⟩ := parse_side_spec hgroups
      dsimp only at hlength
      split at hlength
      · exact ⟨by omega, hchars⟩
      · cases hlength
  | some parts =>
      rw [helision] at h
      obtain ⟨before, after⟩ := parts
      obtain ⟨first, hfirst, hrest⟩ := Option.bind_eq_some_iff.mp h
      obtain ⟨second, hsecond, -⟩ := Option.bind_eq_some_iff.mp hrest
      obtain rfl := split_elision_some helision
      refine ⟨by simp only [List.count_append, List.count_cons_self]; omega, ?_⟩
      intro c hc
      simp only [List.mem_append, List.mem_cons] at hc
      rcases hc with hc | hc | hc | hc
      · exact (parse_side_spec hfirst).2 c hc
      · exact .inr (.inl hc)
      · exact .inr (.inl hc)
      · exact (parse_side_spec hsecond).2 c hc

/-- An IPv6 address has a colon. -/
theorem parse_v6_colon {chars : List Char} {addr : BitVec 128} (h : parseV6 chars = some addr) :
    ':' ∈ chars :=
  List.count_pos_iff.mp (Nat.lt_of_lt_of_le Nat.zero_lt_two (parse_v6_spec h).1)

/-! ## What a text cannot denote -/

variable {chars : List Char} {host : Host} {given : Option UInt16}

theorem colon_not_plain : HostChar ':' = false := by decide

/-- A plain host has no colon. -/
theorem Plain.colon_not_mem {host : List Char} (h : Plain host) : ':' ∉ host := fun hmem =>
  Bool.false_ne_true (colon_not_plain.symm.trans (List.all_eq_true.mp h.2 ':' hmem))

/-- A port has no colon. -/
theorem read_port_colon {digits : List Char} {port : UInt16} (h : readPort digits = some port) :
    ':' ∉ digits := fun hmem =>
  absurd ((read_port_digits h).2 ':' hmem) (by decide)

/-- A host and a port in brackets do not end in a bracket. -/
theorem bracketed_has_no_port {text : List Char} {port : UInt16} :
    ¬ Denotes ('[' :: text ++ [']']) host (some port) := by
  intro h
  generalize hchars : '[' :: text ++ [']'] = chars at h
  generalize hgiven : some port = given at h
  cases h with
  | plain | bracketed | bare => cases hgiven
  | plainPort host digits port hplain hport =>
      -- a plain host does not begin with a bracket
      obtain ⟨first, rest, rfl⟩ := List.exists_cons_of_ne_nil hplain.1
      obtain ⟨rfl, -⟩ := List.cons.inj hchars
      exact absurd (List.all_eq_true.mp hplain.2 '[' List.mem_cons_self) (by decide)
  | bracketedPort text' digits addr port haddr hport =>
      -- a port does not end in a bracket
      obtain ⟨hne, hdigits⟩ := read_port_digits hport
      have hlast := congrArg List.getLast? hchars
      obtain ⟨init, last, rfl⟩ := List.eq_nil_or_concat digits |>.resolve_left hne
      have hbracket : ']' = last := by
        simpa [List.getLast?_append, List.getLast?_cons] using hlast
      exact absurd (hdigits last (by simp)) (by rw [← hbracket]; decide)

/-- An IPv6 address without brackets does not name a port. -/
theorem bare_has_no_port {addr : BitVec 128} {port : UInt16} (haddr : parseV6 chars = some addr) :
    ¬ Denotes chars host (some port) := by
  obtain ⟨hcount, hall⟩ := parse_v6_spec haddr
  intro h
  generalize hgiven : some port = given at h
  cases h with
  | plain | bracketed | bare => cases hgiven
  | plainPort host digits port hplain hport =>
      have hhost := List.count_eq_zero_of_not_mem hplain.colon_not_mem
      have hdigits := List.count_eq_zero_of_not_mem (read_port_colon hport)
      rw [List.count_append, List.count_cons_self, hhost, hdigits] at hcount
      omega
  | bracketedPort text digits addr port haddr hport =>
      have hbracket := hall '[' List.mem_cons_self
      exact absurd hbracket (by unfold AddrChar; decide)

/-- A text that denotes a host is on one line. -/
theorem Denotes.one_line (h : Denotes chars host given) : '\n' ∉ chars := by
  have hplain : ∀ {host : List Char}, Plain host → '\n' ∉ host := fun h hmem =>
    absurd (List.all_eq_true.mp h.2 '\n' hmem) (by decide)
  have hport : ∀ {digits : List Char} {port : UInt16}, readPort digits = some port →
      '\n' ∉ digits := fun h hmem => absurd ((read_port_digits h).2 '\n' hmem) (by decide)
  have haddr : ∀ {text : List Char} {addr : BitVec 128}, parseV6 text = some addr →
      '\n' ∉ text := fun h hmem =>
    absurd ((parse_v6_spec h).2 '\n' hmem) (by unfold AddrChar; decide)
  cases h with
  | plain _ h => exact hplain h
  | plainPort _ _ _ h hdigits => simp [hplain h, hport hdigits]
  | bracketed _ _ h => simp [haddr h]
  | bracketedPort _ _ _ _ h hdigits => simp [haddr h, hport hdigits]
  | bare _ _ h => exact haddr h

/-! ## Client configurations -/

theorem to_list_with_port (serverEndpoint : String) (port : UInt16) :
    (s!"{serverEndpoint}:{port}").toList =
      serverEndpoint.toList ++ ':' :: (toString port).toList := by
  simp [String.toList_append, toString]

/-- The endpoint of an interface at an address denotes the host of the address, with the port that
it names or else the interface's, exactly if the address names a port or has no colon. -/
theorem denotes_endpoint_iff {serverEndpoint : String} (iface : Interface)
    (h : Denotes serverEndpoint.toList host given) :
    Denotes (PeerConf.endpoint iface serverEndpoint).toList host
        (some (given.getD iface.listenPort)) ↔
      given.isSome = true ∨ ':' ∉ serverEndpoint.toList := by
  unfold PeerConf.endpoint
  by_cases hcolon : ':' ∈ serverEndpoint.toList
  · rw [if_pos hcolon]
    cases given with
    | some port => exact iff_of_true h (.inl rfl)
    | none =>
        refine iff_of_false ?_ (by simp [hcolon])
        generalize serverEndpoint.toList = chars at h hcolon
        generalize hgiven : (none : Option UInt16) = given at h
        cases h with
        | plain _ hplain => exact absurd hcolon hplain.colon_not_mem
        | plainPort | bracketedPort => cases hgiven
        | bracketed => exact bracketed_has_no_port
        | bare _ _ haddr => exact bare_has_no_port haddr
  · rw [if_neg hcolon]
    refine iff_of_true ?_ (.inr hcolon)
    rw [to_list_with_port]
    generalize serverEndpoint.toList = chars at h hcolon
    cases h with
    | plain _ hplain => exact .plainPort _ _ _ hplain (read_port_display _)
    | plainPort | bracketedPort => simp at hcolon
    | bracketed _ _ haddr => exact absurd (parse_v6_colon haddr) (by simp_all)
    | bare _ _ haddr => exact absurd (parse_v6_colon haddr) hcolon

/-- The endpoint of an address on one line is on one line. -/
theorem endpoint_one_line {serverEndpoint : String} (iface : Interface)
    (h : '\n' ∉ serverEndpoint.toList) :
    '\n' ∉ (PeerConf.endpoint iface serverEndpoint).toList := by
  unfold PeerConf.endpoint
  split
  · exact h
  · have hport : '\n' ∉ (toString iface.listenPort).toList := fun hmem =>
      absurd ((read_port_digits (read_port_display iface.listenPort)).2 _ hmem) (by decide)
    rw [to_list_with_port]
    simp [h, hport]

/-- A configuration ends in an endpoint line, before the line of the keepalive interval if there is
one, and its endpoint denotes this host and port. -/
def EmitsEndpoint (peer : Peer) (conf : String) (host : Host) (port : UInt16) : Prop :=
  ∃ before value, conf.toList = before ++ '\n' :: "Endpoint = ".toList ++ value ++
      '\n' :: (optionalLine "PersistentKeepalive" (peer.persistentKeepalive.map toString)).toList ∧
    '\n' ∉ value ∧ Denotes value host (some port)

/-- The characters of the last lines. -/
theorem to_list_lines (head networks value keepalive : String) :
    (head ++ ("AllowedIPs = " ++ networks ++ "\n") ++ ("Endpoint = " ++ value ++ "\n") ++
        keepalive).toList =
      (head ++ ("AllowedIPs = " ++ networks)).toList ++ '\n' :: "Endpoint = ".toList ++
        value.toList ++ '\n' :: keepalive.toList := by
  simp [String.toList_append]

/-- Every configuration ends in the endpoint of its interface. -/
theorem render_peer_conf_endpoint {crates : Crates} {iface : Interface} {peer : Peer}
    {serverEndpoint conf : String}
    (h : renderPeerConf crates iface peer serverEndpoint = .ok conf) :
    ∃ before, conf.toList = before ++ '\n' :: "Endpoint = ".toList ++
      (PeerConf.endpoint iface serverEndpoint).toList ++
      '\n' :: (optionalLine "PersistentKeepalive"
        (peer.persistentKeepalive.map toString)).toList := by
  obtain ⟨privateKey, -, hconf⟩ := Outcome.bind_ok.mp h
  obtain rfl := Except.ok.inj hconf
  exact ⟨_, to_list_lines _ _ _ _⟩

/-- The last line of a text is what follows its last line break. -/
theorem last_line_unique {before before' line line' : List Char}
    (h : before ++ '\n' :: line = before' ++ '\n' :: line') (hline : '\n' ∉ line)
    (hline' : '\n' ∉ line') : line = line' := by
  have hlast : ∀ {before line : List Char}, '\n' ∉ line →
      (before ++ '\n' :: line).reverse.takeWhile (· ≠ '\n') = line.reverse := by
    intro before line hline
    rw [List.reverse_append, List.reverse_cons, List.append_assoc, List.takeWhile_append_of_pos]
    · simp
    · intro c hc
      have hne : c ≠ '\n' := fun heq => hline (heq ▸ List.mem_reverse.mp hc)
      simpa using hne
  have hreverse := congrArg (fun text => text.reverse.takeWhile (· ≠ '\n')) h
  rw [hlast hline, hlast hline'] at hreverse
  exact List.reverse_inj.mp hreverse

/-- What a configuration emits is the endpoint of its interface. -/
theorem emits_endpoint_iff {crates : Crates} {iface : Interface} {peer : Peer}
    {serverEndpoint conf : String}
    (hconf : renderPeerConf crates iface peer serverEndpoint = .ok conf)
    (hline : '\n' ∉ serverEndpoint.toList) (host : Host) (port : UInt16) :
    EmitsEndpoint peer conf host port ↔
      Denotes (PeerConf.endpoint iface serverEndpoint).toList host (some port) := by
  obtain ⟨before, htext⟩ := render_peer_conf_endpoint hconf
  constructor
  · intro hemits
    obtain ⟨before', value, htext', hvalue, hdenotes⟩ := hemits
    have hsame : value = (PeerConf.endpoint iface serverEndpoint).toList := by
      have hlines := List.append_cancel_right (htext'.symm.trans htext)
      rw [List.append_assoc, List.append_assoc, List.cons_append, List.cons_append] at hlines
      have hkey : '\n' ∉ "Endpoint = ".toList := by decide
      exact List.append_cancel_left (last_line_unique hlines
        (by simp only [List.mem_append, hkey, hvalue, or_self, not_false_eq_true])
        (by simp only [List.mem_append, hkey, endpoint_one_line iface hline, or_self,
          not_false_eq_true]))
    rwa [← hsame]
  · intro hdenotes
    exact ⟨before, _, htext, hdenotes.one_line, hdenotes⟩

/-- For every address of one of the five shapes, the configuration of a client ends in an endpoint
with the host of the address and the port that it names, or else that of the interface, exactly if
the address names a port or has no colon. -/
theorem endpoint_denotes_iff (crates : Crates) (iface : Interface) (peer : Peer)
    (serverEndpoint conf : String)
    (hconf : renderPeerConf crates iface peer serverEndpoint = .ok conf) (host : Host)
    (given : Option UInt16) (h : Denotes serverEndpoint.toList host given) :
    EmitsEndpoint peer conf host (given.getD iface.listenPort) ↔
      given.isSome = true ∨ ':' ∉ serverEndpoint.toList :=
  (emits_endpoint_iff hconf h.one_line host _).trans (denotes_endpoint_iff iface h)

/-- A peer whose private key is stored. -/
def keyedPeer : Peer :=
  { Peer.plain 0 0 "laptop" none none with
    privateKeySealed := some (encodeKey .zero).toUTF8 }

/-- That peer gets a configuration for every address. -/
theorem keyed_peer_conf (serverEndpoint : String) :
    ∃ conf, renderPeerConf .transparent (.plain 0 "wg0" none none) keyedPeer serverEndpoint =
      .ok conf := by
  have hkey : PeerConf.privateKey .transparent keyedPeer = .ok (encodeKey .zero) := by
    decide +kernel
  unfold renderPeerConf
  rw [hkey]
  exact ⟨_, rfl⟩

theorem endpoint_denotes_name :
    ∃ conf, renderPeerConf .transparent (.plain 0 "wg0" none none) keyedPeer "vpn.example.com" =
        .ok conf ∧
      EmitsEndpoint keyedPeer conf (.name "vpn.example.com".toList)
        (Interface.plain 0 "wg0" none none).listenPort := by
  obtain ⟨conf, hconf⟩ := keyed_peer_conf "vpn.example.com"
  have hhost : plainHost "vpn.example.com".toList = .name "vpn.example.com".toList := by
    decide +kernel
  have hname := Denotes.plain "vpn.example.com".toList (by decide +kernel)
  rw [hhost] at hname
  exact ⟨conf, hconf, (endpoint_denotes_iff .transparent (.plain 0 "wg0" none none) keyedPeer
    "vpn.example.com" conf hconf _ none hname).mpr (.inr (by decide))⟩

/-- An IPv6 address without a port is taken over without the port of the interface. -/
theorem ipv6_endpoint_without_port : ¬ ∀ (crates : Crates) (iface : Interface) (peer : Peer)
    (serverEndpoint conf : String), renderPeerConf crates iface peer serverEndpoint = .ok conf →
      ∀ (host : Host) (given : Option UInt16), Denotes serverEndpoint.toList host given →
        EmitsEndpoint peer conf host (given.getD iface.listenPort) := by
  intro h
  obtain ⟨conf, hconf⟩ := keyed_peer_conf "2001:db8::1"
  have haddr : Denotes "2001:db8::1".toList (.ip (.v6 0x20010db8000000000000000000000001)) none :=
    .bare _ _ (by decide +kernel)
  have hemits := (emits_endpoint_iff hconf haddr.one_line _ _).mp (h _ _ _ _ conf hconf _ _ haddr)
  cases (denotes_endpoint_iff _ haddr).mp hemits with
  | inl hsome => cases hsome
  | inr hplain => exact hplain (by decide)

end Endpoint

end Wireforge
