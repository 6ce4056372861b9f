import Wireforge.Front.AllowedIps
import Wireforge.Front.Recorded
import Wireforge.Lib.KeyValue
import Wireforge.Lifecycle.Keys
import Wireforge.Service.Endpoint
import Wireforge.Web.Fields

/-!
# What a client configuration says

A client reads a configuration line by line. `PeerConf.items` is what it should read, and
`conf_says_iff` is when it does: nothing escapes the texts that go into a configuration, so that
the lines of a name after its first are lines of the configuration.
-/

namespace Wireforge

open KeyValue (IsValue)

namespace PeerConf

section Items

variable (iface : Interface) (peer : Peer) (serverEndpoint : String)

/-- A key with its value. -/
def entry (key value : String) : KeyValue.Item :=
  .entry key.toList value.toList

/-- The sections and keys of a configuration, with the values of the fields. -/
def items (privateKey : String) : List KeyValue.Item :=
  [.header "[Interface]".toList, entry "PrivateKey" privateKey, entry "Address" (address peer)] ++
    (dnsValue iface peer).toList.map (entry "DNS") ++
    (iface.mtu.map toString).toList.map (entry "MTU") ++
    [.header "[Peer]".toList, entry "PublicKey" iface.publicKey.asStr,
      entry "AllowedIPs" (clientAllowedIps iface peer),
      entry "Endpoint" (endpoint iface serverEndpoint)] ++
    (peer.persistentKeepalive.map toString).toList.map (entry "PersistentKeepalive")

/-- A configuration is read as what it should say. -/
def Says (crates : Crates) (conf : String) : Prop :=
  ∃ key, privateKey crates peer = .ok key ∧
    KeyValue.read conf.toList = items iface peer serverEndpoint key

/-- The texts that stand in the comment of a configuration. -/
def comment : String :=
  s!"{peer.name} ({iface.name})"

/-- Texts that stay what they are in a configuration. What follows a line feed in the name is blank
or a comment, and the name servers and the server's address are without line feeds, comments and
whitespace around them; a port follows an address without a colon. -/
structure Harmless : Prop where
  name : ∀ line ∈ ((comment iface peer).toList.splitOn '\n').tail, KeyValue.readLine line = none
  dns : IsValue (", ".intercalate (dns iface peer)).toList
  oneLine : '\n' ∉ serverEndpoint.toList
  uncommented : '#' ∉ serverEndpoint.toList
  start : ∀ c ∈ serverEndpoint.toList.head?, Text.isWhitespace c = false
  finish : ':' ∈ serverEndpoint.toList →
    ∀ c ∈ serverEndpoint.toList.getLast?, Text.isWhitespace c = false

end Items

/-! ## Values that are always kept -/

/-- Neither whitespace nor the beginning of a comment. -/
def ValueChar (c : Char) : Prop :=
  Text.isWhitespace c = false ∧ c ≠ '#'

instance (c : Char) : Decidable (ValueChar c) :=
  inferInstanceAs (Decidable (_ ∧ _))

theorem value_spelling : Spelling ValueChar where
  digit := by decide
  dot := by decide
  colon := by decide
  slash := by decide
  base64 := by decide
  pad := by decide

variable {iface : Interface} {peer : Peer} {serverEndpoint conf key : String} {crates : Crates}

theorem value_of_chars {s : String} (h : Consists ValueChar s) : IsValue s.toList where
  oneLine hc := absurd (h '\n' hc) (by decide)
  uncommented hc := (h '#' hc).2 rfl
  trimmed := Text.trim_chars_self fun c hc => (h c hc).1

/-- Texts that are joined by commas. -/
theorem value_joined {texts : List String}
    (h : ∀ text ∈ texts, text.toList ≠ [] ∧ IsValue text.toList) :
    IsValue (", ".intercalate texts).toList ∧
      (texts ≠ [] → (", ".intercalate texts).toList ≠ []) := by
  induction texts with
  | nil => exact ⟨value_of_chars fun c hc => absurd hc List.not_mem_nil, fun hne => absurd rfl hne⟩
  | cons text rest ih =>
      obtain ⟨hne, htext⟩ := h text List.mem_cons_self
      cases rest with
      | nil =>
          rw [String.intercalate_singleton]
          exact ⟨htext, fun _ => hne⟩
      | cons next rest =>
          have hrest := ih fun other hother => h other (List.mem_cons_of_mem _ hother)
          rw [String.intercalate_cons_cons, String.toList_append, String.toList_append]
          have hne' := hrest.2 (List.cons_ne_nil _ _)
          refine ⟨htext.append hrest.1 hne hne' (by decide), fun _ => ?_⟩
          simp [hne]

/-- Networks that are joined by commas. -/
theorem value_nets (nets : List IpNet) :
    IsValue (", ".intercalate (nets.map IpNet.display)).toList := by
  refine (value_joined fun text htext => ?_).1
  obtain ⟨net, -, rfl⟩ := List.mem_map.mp htext
  refine ⟨fun hnil => (PlainText.net net).nonempty (String.toList_eq_nil_iff.mp hnil), ?_⟩
  exact value_of_chars (value_spelling.net net)

theorem value_client_allowed_ips : IsValue (clientAllowedIps iface peer).toList := by
  have hfull : IsValue fullTunnel.toList := ⟨by decide, by decide, by decide⟩
  unfold clientAllowedIps
  split
  · exact hfull
  · simp only
    split
    · exact hfull
    · rw [show (fun c : IpNet => c.trunc.display) = IpNet.display ∘ IpNet.trunc from rfl,
        ← List.map_map]
      exact value_nets _

theorem value_nat (n : Nat) : IsValue (toString n).toList :=
  value_of_chars (value_spelling.nat n)

/-- The endpoint is a value if the address it is made of is one, but for its end. -/
theorem value_endpoint_iff :
    IsValue (endpoint iface serverEndpoint).toList ↔
      '\n' ∉ serverEndpoint.toList ∧ '#' ∉ serverEndpoint.toList ∧
        (∀ c ∈ serverEndpoint.toList.head?, Text.isWhitespace c = false) ∧
        (':' ∈ serverEndpoint.toList →
          ∀ c ∈ serverEndpoint.toList.getLast?, Text.isWhitespace c = false) := by
  unfold endpoint
  split
  case isTrue hcolon =>
    constructor
    · intro h
      obtain ⟨hhead, hlast⟩ := Text.trim_chars_eq_self_iff.mp h.trimmed
      exact ⟨h.oneLine, h.uncommented, hhead, fun _ => hlast⟩
    · intro h
      exact ⟨h.1, h.2.1, Text.trim_chars_eq_self_iff.mpr ⟨h.2.2.1, h.2.2.2 hcolon⟩⟩
  case isFalse hcolon =>
    have hport := value_nat iface.listenPort.toNat
    have hne : (toString iface.listenPort.toNat).toList ≠ [] :=
      fun hnil => (PlainText.nat _).nonempty (String.toList_eq_nil_iff.mp hnil)
    have htext : (s!"{serverEndpoint}:{iface.listenPort}").toList =
        (serverEndpoint.toList ++ [':']) ++ (toString iface.listenPort.toNat).toList := by
      rw [Endpoint.to_list_with_port, List.append_assoc]
      rfl
    rw [htext]
    generalize (toString iface.listenPort.toNat).toList = port at hport hne
    constructor
    · intro h
      obtain ⟨hhead, -⟩ := Text.trim_chars_eq_self_iff.mp h.trimmed
      refine ⟨fun hc => h.oneLine (by simp [hc]), fun hc => h.uncommented (by simp [hc]),
        fun c hc => hhead c ?_, fun hc => absurd hc hcolon⟩
      rw [List.append_assoc]
      exact List.mem_head?_append_of_mem_head? hc
    · intro h
      obtain ⟨hfeed, hcomment, hhead, -⟩ := h
      refine ⟨by simp [hfeed, hport.oneLine], by simp [hcomment, hport.uncommented],
        Text.trim_chars_eq_self_iff.mpr ⟨fun c hc => ?_, ?_⟩⟩
      · cases hchars : serverEndpoint.toList with
        | nil =>
            rw [hchars] at hc
            obtain rfl := Option.some.inj hc
            decide
        | cons first rest =>
            rw [hchars] at hc hhead
            exact hhead c hc
      · rw [List.getLast?_append_of_ne_nil _ hne]
        exact (Text.trim_chars_eq_self_iff.mp hport.trimmed).2

/-! ## Lines -/

/-- The line of a key, up to its line feed. -/
def keyLine (key value : String) : List Char :=
  key.toList ++ " = ".toList ++ value.toList

/-- A line that may be missing is read before the rest. -/
theorem read_optional_line (key : String) (value : Option String) (rest : List Char) :
    KeyValue.read ((optionalLine key value).toList ++ rest) =
      value.toList.flatMap (fun text => KeyValue.read (keyLine key text)) ++
        KeyValue.read rest := by
  cases value with
  | none => rfl
  | some text =>
      have hline : (optionalLine key (some text)).toList ++ rest =
          keyLine key text ++ '\n' :: rest := by
        simp [optionalLine, keyLine, String.toList_append, toString]
      rw [hline, KeyValue.read_append]
      simp

/-- The characters of a configuration, line by line. -/
theorem to_list_conf (name ifaceName privateKey addresses dns mtu publicKey networks endpoint
    keepalive : String) :
    ("[Interface]\n# " ++ name ++ " (" ++ ifaceName ++ ")\nPrivateKey = " ++ privateKey ++ "\n" ++
      ("Address = " ++ addresses ++ "\n") ++ dns ++ mtu ++
      ("\n[Peer]\nPublicKey = " ++ publicKey ++ "\n") ++
      ("AllowedIPs = " ++ networks ++ "\n") ++ ("Endpoint = " ++ endpoint ++ "\n") ++
      keepalive).toList =
    "[Interface]".toList ++ '\n' :: ('#' :: ([' '] ++ (name ++ " (" ++ ifaceName ++ ")").toList) ++
      '\n' :: (keyLine "PrivateKey" privateKey ++ '\n' :: (keyLine "Address" addresses ++
      '\n' :: (dns.toList ++ (mtu.toList ++ ([] ++ '\n' :: ("[Peer]".toList ++
      '\n' :: (keyLine "PublicKey" publicKey ++ '\n' :: (keyLine "AllowedIPs" networks ++
      '\n' :: (keyLine "Endpoint" endpoint ++ '\n' :: (keepalive.toList ++ []))))))))))) := by
  simp [keyLine, String.toList_append]

/-- A line with a value is read as its key and value. -/
theorem read_values {name : String} (hname : KeyValue.IsKey name.toList) {values : List String}
    (h : ∀ text ∈ values, IsValue text.toList) :
    values.flatMap (fun text => KeyValue.read (keyLine name text)) = values.map (entry name) := by
  have hlines : ∀ text ∈ values, KeyValue.read (keyLine name text) = [entry name text] :=
    fun text htext => (KeyValue.read_entry_iff hname).mpr (h text htext)
  rw [List.flatMap_congr hlines]
  exact List.map_eq_flatMap.symm

/-- A text that is made of segments, some of which should be others that are no longer. -/
theorem segments_eq_iff {α : Type} {a b c d extra first second first' second' : List α}
    (hfirst : first'.length ≤ first.length) (hsecond : second'.length ≤ second.length) :
    a ++ extra ++ b ++ first ++ c ++ second ++ d = a ++ b ++ first' ++ c ++ second' ++ d ↔
      extra = [] ∧ first = first' ∧ second = second' := by
  constructor
  · intro h
    have hlength := congrArg List.length h
    simp only [List.length_append] at hlength
    have hextra : extra = [] := List.length_eq_zero_iff.mp (by omega)
    subst hextra
    rw [List.append_nil] at h
    obtain ⟨hfront, rfl⟩ := List.append_inj' (List.append_cancel_right h) (by omega)
    exact ⟨rfl, List.append_cancel_left (List.append_cancel_right hfront), rfl⟩
  · intro h
    obtain ⟨rfl, rfl, rfl⟩ := h
    rw [List.append_nil]

/-- The name servers are read back if their text is a value. -/
theorem read_dns_iff :
    (dnsValue iface peer).toList.flatMap (fun text => KeyValue.read (keyLine "DNS" text)) =
        (dnsValue iface peer).toList.map (entry "DNS") ↔
      IsValue (", ".intercalate (dns iface peer)).toList := by
  unfold dnsValue
  cases hdns : dns iface peer with
  | nil => exact iff_of_true rfl (value_joined fun _ hmem => absurd hmem List.not_mem_nil).1
  | cons first rest =>
      have hkey : KeyValue.IsKey "DNS".toList := by decide
      simp only [List.isEmpty_cons, Bool.false_eq_true, if_false, Option.toList_some,
        List.flatMap_singleton, List.map_cons, List.map_nil]
      exact KeyValue.read_entry_iff hkey

/-- What is read of the comment: the lines after its first. -/
theorem read_note (note : List Char) :
    KeyValue.read ('#' :: ([' '] ++ note)) =
      (note.splitOn '\n').tail.filterMap KeyValue.readLine := by
  rw [KeyValue.read_comment, KeyValue.split_lines_append (by simp)]
  cases note.splitOn '\n' <;> rfl

/-- What is read of a configuration whose private key is a value. -/
theorem read_conf (hconf : renderPeerConf crates iface peer serverEndpoint = .ok conf)
    (hkey : privateKey crates peer = .ok key) (hkeyValue : IsValue key.toList) :
    KeyValue.read conf.toList =
      [.header "[Interface]".toList] ++
        ((comment iface peer).toList.splitOn '\n').tail.filterMap KeyValue.readLine ++
        [entry "PrivateKey" key, entry "Address" (address peer)] ++
        (dnsValue iface peer).toList.flatMap (fun text => KeyValue.read (keyLine "DNS" text)) ++
        ((iface.mtu.map toString).toList.map (entry "MTU") ++
          [.header "[Peer]".toList, entry "PublicKey" iface.publicKey.asStr,
            entry "AllowedIPs" (clientAllowedIps iface peer)]) ++
        KeyValue.read (keyLine "Endpoint" (endpoint iface serverEndpoint)) ++
        (peer.persistentKeepalive.map toString).toList.map (entry "PersistentKeepalive") := by
  have hlines := hconf
  unfold renderPeerConf at hlines
  rw [hkey] at hlines
  have hlist := (congrArg String.toList (Except.ok.inj hlines)).symm.trans
    (to_list_conf peer.name iface.name key (address peer) _ _ iface.publicKey.asStr
      (clientAllowedIps iface peer) (endpoint iface serverEndpoint) _)
  have hline {name value : String} (hname : KeyValue.IsKey name.toList)
      (hvalue : IsValue value.toList) :
      KeyValue.read (keyLine name value) = [entry name value] :=
    (KeyValue.read_entry_iff hname).mpr hvalue
  have hnumber {name : String} (hname : KeyValue.IsKey name.toList) (value : Option UInt16) :
      (value.map toString).toList.flatMap (fun text => KeyValue.read (keyLine name text)) =
        (value.map toString).toList.map (entry name) := by
    refine read_values hname fun text htext => ?_
    obtain ⟨n, -, rfl⟩ := Option.map_eq_some_iff.mp (Option.mem_toList.mp htext)
    exact value_nat n.toNat
  have hserver : KeyValue.read "[Interface]".toList = [.header "[Interface]".toList] := by
    decide +kernel
  have hpeer : KeyValue.read "[Peer]".toList = [.header "[Peer]".toList] := by
    decide +kernel
  have haddress : IsValue (address peer).toList := value_nets peer.allowedIps
  have hpublic : IsValue iface.publicKey.asStr.toList :=
    value_of_chars (value_spelling.key iface.publicKey.inner)
  rw [hlist]
  simp only [KeyValue.read_append, read_optional_line, read_note, KeyValue.read_nil, hserver, hpeer,
    hline (show KeyValue.IsKey "PrivateKey".toList by decide) hkeyValue,
    hline (show KeyValue.IsKey "Address".toList by decide) haddress,
    hnumber (show KeyValue.IsKey "MTU".toList by decide),
    hline (show KeyValue.IsKey "PublicKey".toList by decide) hpublic,
    hline (show KeyValue.IsKey "AllowedIPs".toList by decide) value_client_allowed_ips,
    hnumber (show KeyValue.IsKey "PersistentKeepalive".toList by decide)]
  rw [show peer.name ++ " (" ++ iface.name ++ ")" = comment iface peer from rfl]
  simp only [List.append_assoc, List.cons_append, List.nil_append, List.append_nil]

/-- A configuration whose private key is a value is read as what it should say exactly if the texts
in it are harmless. -/
theorem read_conf_iff (hconf : renderPeerConf crates iface peer serverEndpoint = .ok conf)
    (hkey : privateKey crates peer = .ok key) (hkeyValue : IsValue key.toList) :
    KeyValue.read conf.toList = items iface peer serverEndpoint key ↔
      Harmless iface peer serverEndpoint := by
  have hitems : items iface peer serverEndpoint key =
      [.header "[Interface]".toList] ++ [entry "PrivateKey" key, entry "Address" (address peer)] ++
        (dnsValue iface peer).toList.map (entry "DNS") ++
        ((iface.mtu.map toString).toList.map (entry "MTU") ++
          [.header "[Peer]".toList, entry "PublicKey" iface.publicKey.asStr,
            entry "AllowedIPs" (clientAllowedIps iface peer)]) ++
        [entry "Endpoint" (endpoint iface serverEndpoint)] ++
        (peer.persistentKeepalive.map toString).toList.map (entry "PersistentKeepalive") := by
    simp [items]
  have hdns : ((dnsValue iface peer).toList.map (entry "DNS")).length ≤
      ((dnsValue iface peer).toList.flatMap
        fun text => KeyValue.read (keyLine "DNS" text)).length := by
    cases dnsValue iface peer with
    | none => exact Nat.le_refl _
    | some text =>
        have hlength := KeyValue.length_read_entry (show KeyValue.IsKey "DNS".toList by decide)
          text.toList
        simpa [keyLine] using hlength
  have hendpointKey : KeyValue.IsKey "Endpoint".toList := by decide
  have hendpoint : [entry "Endpoint" (endpoint iface serverEndpoint)].length ≤
      (KeyValue.read (keyLine "Endpoint" (endpoint iface serverEndpoint))).length :=
    KeyValue.length_read_entry hendpointKey _
  have hvalue : KeyValue.read (keyLine "Endpoint" (endpoint iface serverEndpoint)) =
        [entry "Endpoint" (endpoint iface serverEndpoint)] ↔
      IsValue (endpoint iface serverEndpoint).toList :=
    KeyValue.read_entry_iff hendpointKey
  rw [read_conf hconf hkey hkeyValue, hitems, segments_eq_iff hdns hendpoint,
    List.filterMap_eq_nil_iff, read_dns_iff, hvalue, value_endpoint_iff]
  constructor
  · intro h
    obtain ⟨hname, hservers, hline, hcomment, hstart, hfinish⟩ := h
    exact ⟨hname, hservers, hline, hcomment, hstart, hfinish⟩
  · intro h
    exact ⟨h.name, h.dns, h.oneLine, h.uncommented, h.start, h.finish⟩

end PeerConf

/-! ## Stored rows -/

open PeerConf

/-- The private key of a stored peer is a key, if the peer has one. -/
theorem private_key_value {crates : Crates} {db : Db} (h : KeysMatched crates db) {peer : Peer}
    (hpeer : peer ∈ db.peers.rows) {text : String} (htext : privateKey crates peer = .ok text) :
    IsValue text.toList := by
  unfold privateKey at htext
  cases hsealed : peer.privateKeySealed with
  | none =>
      rw [hsealed] at htext
      cases htext
  | some sealed =>
      obtain ⟨key, hunseal, -⟩ := h.peers peer hpeer sealed hsealed
      simp only [hsealed, hunseal, Bind.bind, Except.bind, Text.from_utf8_to_utf8] at htext
      obtain rfl := Except.ok.inj htext
      exact value_of_chars (value_spelling.key key.inner)

/-- A configuration that is rendered has a private key. -/
theorem private_key_of_conf {crates : Crates} {iface : Interface} {peer : Peer}
    {serverEndpoint conf : String}
    (hconf : renderPeerConf crates iface peer serverEndpoint = .ok conf) :
    ∃ key, privateKey crates peer = .ok key := by
  obtain ⟨key, hkey, -⟩ := Outcome.bind_ok.mp hconf
  exact ⟨key, hkey⟩

/-- A configuration of a row whose key is a key is read as what it should say exactly if the texts
in it are harmless. -/
theorem says_iff {crates : Crates} {db : Db} (h : KeysMatched crates db) {iface : Interface}
    {peer : Peer} (hpeer : peer ∈ db.peers.rows) {serverEndpoint conf : String}
    (hconf : renderPeerConf crates iface peer serverEndpoint = .ok conf) :
    Says iface peer serverEndpoint crates conf ↔ Harmless iface peer serverEndpoint := by
  obtain ⟨key, hkey⟩ := private_key_of_conf hconf
  have hread := read_conf_iff hconf hkey (private_key_value h hpeer hkey)
  constructor
  · intro hsays
    obtain ⟨key', hkey', hitems⟩ := hsays
    obtain rfl := Except.ok.inj (hkey.symm.trans hkey')
    exact hread.mp hitems
  · intro hharmless
    exact ⟨key, hkey, hread.mpr hharmless⟩

/-- In every run of requests of both front ends from a site without rows, sealed keys are keys. -/
theorem keys_matched_run (server : Server) (hcrates : server.crates.toCrates.SealsBack) (s : Site)
    (hinterfaces : s.host.db.interfaces.rows = []) (hpeers : s.host.db.peers.rows = [])
    (run : List Served) :
    Runs.Always (serveStep server) (fun s => KeysMatched server.crates.toCrates s.host.db) s
      run := by
  refine Runs.always_of_step (fun s a h => ?_) ⟨fun iface hiface => ?_, fun peer hpeer => ?_⟩ run
  · exact front_keeps (fun w => KeysMatched server.crates.toCrates w.db) (fun _ _ h => h)
      (fun call _ h => keys_matched_step hcrates _ _ h) h
  · rw [hinterfaces] at hiface
    cases hiface
  · rw [hpeers] at hpeer
    cases hpeer

/-- After every run of requests of both front ends, for every interface and peer that are stored
and every server's address: what is read of the configuration is what it should say exactly if the
lines of the name after its first are blank or comments, and the name servers and the address are
without line feeds, comments and whitespace around them. -/
theorem conf_says_iff (server : Server) (hcrates : server.crates.toCrates.SealsBack) (start : Site)
    (hinterfaces : start.host.db.interfaces.rows = []) (hpeers : start.host.db.peers.rows = [])
    (run : List Served) (iface : Interface) (peer : Peer)
    (hpeer : peer ∈ (Runs.after (serveStep server) start run).host.db.peers.rows)
    (serverEndpoint conf : String)
    (hconf : renderPeerConf server.crates.toCrates iface peer serverEndpoint = .ok conf) :
    Says iface peer serverEndpoint server.crates.toCrates conf ↔
      Harmless iface peer serverEndpoint := by
  have hmatched := Runs.always_iff_initial.mp
    (keys_matched_run server hcrates start hinterfaces hpeers run) run List.prefix_rfl
  exact says_iff hmatched hpeer hconf

/-! ## Examples -/

/-- The body of a request for a peer that chooses nothing but its name. -/
def CreatePeerRequest.plain (name : String) : CreatePeerRequest where
  interfaceId := (Id.mk 0 : Id InterfaceMarker).display
  name := name
  allowedIps := none
  primaryDns := none
  secondaryDns := none
  nat := false
  persistentKeepalive := none
  publicKey := ""
  privateKey := ""

/-- The site after an interface and a peer with a name have been created. -/
def namedSite (name : String) : Site :=
  Runs.after (serveStep (.reading .lab)) (siteOf ⟨⟨0⟩, "admin", .admin⟩)
    (adminServed
      [.web ⟨0⟩ (.createInterface (.plain "wg0" "10.7.0.0/24")),
        .api ⟨none, ⟨0⟩⟩ (.createPeer (.plain name))])

theorem conf_says_phone :
    ∃ iface ∈ (namedSite "phone").host.db.interfaces.rows,
      ∃ peer ∈ (namedSite "phone").host.db.peers.rows,
        ∃ conf, renderPeerConf .transparent iface peer "vpn.example.com" = .ok conf ∧
          Says iface peer "vpn.example.com" .transparent conf := by
  have hrows : ∃ iface ∈ (namedSite "phone").host.db.interfaces.rows,
      ∃ peer ∈ (namedSite "phone").host.db.peers.rows,
        (renderPeerConf .transparent iface peer "vpn.example.com").toOption.isSome = true ∧
          comment iface peer = "phone (wg0)" ∧ dns iface peer = [] := by
    decide +kernel
  obtain ⟨iface, hiface, peer, hpeer, hsome, hcomment, hdns⟩ := hrows
  have hharmless : Harmless iface peer "vpn.example.com" := by
    constructor
    · rw [hcomment]
      decide
    · rw [hdns]
      exact value_of_chars fun c hc => absurd hc List.not_mem_nil
    · decide
    · decide
    · intro c hc
      obtain rfl : 'v' = c := Option.some.inj hc
      decide
    · exact fun hcolon => absurd hcolon (by decide)
  cases hconf : renderPeerConf .transparent iface peer "vpn.example.com" with
  | error e =>
      rw [hconf] at hsome
      cases hsome
  | ok conf =>
      exact ⟨iface, hiface, peer, hpeer, conf, hconf, (conf_says_iff (.reading .lab)
        Crates.seals_back_transparent _ rfl rfl _ iface peer hpeer _ conf hconf).mpr hharmless⟩

/-- A name with a line feed adds a command to the configuration. -/
theorem command_in_conf :
    ∃ iface ∈ (namedSite "phone\nPostUp = reboot #").host.db.interfaces.rows,
      ∃ peer ∈ (namedSite "phone\nPostUp = reboot #").host.db.peers.rows,
        ∃ conf, renderPeerConf .transparent iface peer "vpn.example.com" = .ok conf ∧
          entry "PostUp" "reboot" ∈ KeyValue.read conf.toList ∧
          ¬ Says iface peer "vpn.example.com" .transparent conf := by
  have hrows : ∃ iface ∈ (namedSite "phone\nPostUp = reboot #").host.db.interfaces.rows,
      ∃ peer ∈ (namedSite "phone\nPostUp = reboot #").host.db.peers.rows,
        ((renderPeerConf .transparent iface peer "vpn.example.com").toOption.any fun conf =>
          entry "PostUp" "reboot" ∈ KeyValue.read conf.toList) = true ∧
        ¬ ∀ line ∈ ((comment iface peer).toList.splitOn '\n').tail,
          KeyValue.readLine line = none := by
    decide +kernel
  obtain ⟨iface, hiface, peer, hpeer, hany, hharm⟩ := hrows
  cases hconf : renderPeerConf .transparent iface peer "vpn.example.com" with
  | error e =>
      rw [hconf] at hany
      cases hany
  | ok conf =>
      rw [hconf] at hany
      have hmatched : KeysMatched .transparent (namedSite "phone\nPostUp = reboot #").host.db :=
        Runs.always_iff_initial.mp (keys_matched_run (.reading .lab) Crates.seals_back_transparent
          _ rfl rfl _) _ List.prefix_rfl
      have hsays := (says_iff hmatched hpeer hconf).not.mpr fun h => hharm h.name
      exact ⟨iface, hiface, peer, hpeer, conf, hconf, of_decide_eq_true hany, hsays⟩

end Wireforge
