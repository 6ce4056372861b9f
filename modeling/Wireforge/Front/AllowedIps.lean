import Wireforge.Front.Operations
import Wireforge.Lifecycle.Addresses

/-!
# Peers without addresses

A new peer has an address, and the form of a peer refuses an empty list. The body of a REST edit
does not: its list may be empty once the blank texts are left out. `peers_addressed` shows that such
an edit is the only way in which a peer loses its last address.
-/

namespace Wireforge

open Effect PeerService

/-- Every stored peer has an address. -/
def Addressed (db : Db) : Prop :=
  ∀ peer ∈ db.peers.rows, peer.allowedIps ≠ []

/-! ## What requests ask for -/

variable {crates : WebCrates}

/-- A new peer has an address: the requested ones, or the one that is free. -/
theorem allocate_ne_nil {iface : Interface} {existing : List Peer}
    {requested : Option (List IpNet)} {allowed : List IpNet}
    (h : allocate iface existing requested = .ok allowed) : allowed ≠ [] := by
  unfold allocate at h
  split at h
  next ip rest =>
      obtain ⟨_, -, hok⟩ := Outcome.bind_ok.mp h
      cases hok
      exact List.cons_ne_nil ip rest
  next =>
      split at h
      · cases h
      · split at h
        · cases h
        · split at h
          · cases h
          · cases h
            exact List.cons_ne_nil _ _

/-- The form of a peer is read only if it names a network. -/
theorem web_update_input_ne_nil {form : PeerEditForm} {input : UpdatePeerInput}
    (h : Routes.Peers.updateInput crates form = .ok input) : input.allowedIps ≠ [] := by
  obtain ⟨nets, hnets, h⟩ := Outcome.bind_ok.mp h
  obtain ⟨keepalive, -, h⟩ := Outcome.bind_ok.mp h
  obtain ⟨primary, -, h⟩ := Outcome.bind_ok.mp h
  obtain ⟨secondary, -, h⟩ := Outcome.bind_ok.mp h
  obtain ⟨id, -, h⟩ := Outcome.bind_ok.mp h
  obtain rfl := Except.ok.inj h
  show nets ≠ []
  unfold Routes.Peers.requireAllowed at hnets
  split at hnets
  next found _ =>
      split at hnets
      · cases hnets
      next hfound =>
          obtain rfl := Except.ok.inj hnets
          intro hnil
          exact hfound (List.isEmpty_iff.mpr hnil)
  next => cases hnets
  next => cases hnets

/-- All texts of a list are blank. -/
def allBlank (items : List String) : Bool :=
  items.all fun item => (Text.trim item).isEmpty

/-- A list of networks is read as the empty list only if all its texts are blank. -/
theorem parse_cidrs_eq_nil {items : List String} {label : String}
    (h : Api.parseCidrs crates items label = .ok []) : allBlank items = true := by
  unfold Api.parseCidrs at h
  cases hkept : (items.map Text.trim).filter (!·.isEmpty) with
  | nil =>
      unfold allBlank
      rw [List.all_eq_true]
      intro item hitem
      have hdropped := List.filter_eq_nil_iff.mp hkept (Text.trim item)
        (List.mem_map_of_mem hitem)
      simpa using hdropped
  | cons text rest =>
      -- a text that is kept is read as a network, or the list is not read at all
      rw [hkept, List.mapM_cons] at h
      obtain ⟨net, -, h⟩ := Outcome.bind_ok.mp h
      obtain ⟨nets, -, h⟩ := Outcome.bind_ok.mp h
      cases h

/-! ## Runs -/

variable {server : Server}

/-- The request asks to give an existing peer no address on an existing interface. -/
def Served.Empties (server : Server) (s : Site) (a : Served) : Prop :=
  ∃ id input, a.Asks server s (.updatePeer id input) ∧ input.allowedIps = [] ∧
    (s.host.db.peers.find id).isSome ∧ (s.host.db.interfaces.find input.interfaceId).isSome

/-- Only a REST edit can do so, and only if all texts of its list are blank. -/
theorem empties_request {s : Site} {a : Served} (h : a.Empties server s) :
    ∃ credentials path req, a.request = .api credentials (.updatePeer path req) ∧
      allBlank req.allowedIps = true := by
  obtain ⟨id, input, ⟨user, -, hasks⟩, hnil, -⟩ := h
  rcases a with ⟨request, moment⟩
  cases request with
  | visit | health => exact hasks.elim
  | web session route =>
      obtain ⟨-, hasks⟩ := hasks
      cases hasks with
      | editPeer hid hform => exact absurd hnil (web_update_input_ne_nil hform)
  | api credentials route =>
      obtain ⟨-, hasks⟩ := hasks
      cases hasks with
      | @updatePeer path id req input hid hinput =>
          refine ⟨credentials, path, req, rfl, ?_⟩
          obtain ⟨interfaceId, -, h⟩ := Outcome.bind_ok.mp hinput
          obtain ⟨nets, hnets, h⟩ := Outcome.bind_ok.mp h
          obtain rfl := Except.ok.inj h
          obtain rfl : nets = [] := hnil
          exact parse_cidrs_eq_nil hnets

theorem addressed_peer_invariant : PeerInvariant Addressed where
  subset _ _ h hsub peer hpeer := h peer (hsub peer hpeer)
  cores db db' h hcores peer hpeer := by
    obtain ⟨old, hold, -, -, -, hips⟩ := Db.source_of_cores hcores hpeer
    exact hips ▸ h old hold

/-- An operation of the services keeps the peers addressed, unless it empties a peer. -/
theorem addressed_step {w : World} {a : ServiceStep} (h : Addressed w.db)
    (hupdate : ∀ id input, a.call = .updatePeer id input → (w.db.peers.find id).isSome →
      (w.db.interfaces.find input.interfaceId).isSome → input.allowedIps ≠ []) :
    Addressed (serviceStep crates.toCrates w a).db := by
  refine addressed_peer_invariant.step crates.toCrates w a h ?_ ?_
  · intro input _ result w' hend
    cases hend with
    | rejected e => exact h
    | created iface row db _ hallocate _ _ _ hdb =>
        intro peer hpeer
        rw [(Db.insert_peer_ok hdb).2.1, List.mem_append, List.mem_singleton] at hpeer
        rcases hpeer with hpeer | rfl
        · exact h peer hpeer
        · exact allocate_ne_nil hallocate
  · intro id input hcall result w' hend
    cases hend with
    | rejected e => exact h
    | updated old row target db hread htarget _ hrekeyed hdb =>
        have hnets : input.allowedIps ≠ [] := by
          refine hupdate id input hcall ?_ ?_
          · obtain ⟨hold, rfl⟩ := Plan.read_peer_some hread
            exact Option.isSome_of_eq_some (Table.find_of_mem hold)
          · obtain ⟨hiface, hid⟩ := Plan.read_interface_some htarget
            exact Option.isSome_of_eq_some (hid ▸ Table.find_of_mem hiface)
        intro peer hpeer
        rw [(Db.update_peer_ok hdb).1] at hpeer
        obtain ⟨before, hbefore, rfl⟩ := List.mem_map.mp hpeer
        unfold Db.setPeer
        split
        · show row.allowedIps ≠ []
          rw [(rekeyed_row hrekeyed).2.2]
          exact hnets
        · exact h before hbefore

/-- In every run of requests that starts with addressed peers and in which no request empties an
existing peer, every stored peer has an address. -/
theorem peers_addressed (server : Server) (s : Site) (run : List Served)
    (hinit : Addressed s.host.db)
    (hrun : Runs.EachStep (serveStep server) (fun s a => ¬ a.Empties server s) s run) :
    Runs.Always (serveStep server) (fun s => Addressed s.host.db) s run := by
  refine Runs.always_of_each_step (fun s a h hguard => ?_) hinit hrun
  refine front_keeps (fun w => Addressed w.db) (fun _ _ h => h) (fun call hasks h => ?_) h
  refine addressed_step h fun id input hcall hpeer htarget hnil => ?_
  obtain rfl : call = .updatePeer id input := hcall
  exact hguard ⟨id, input, hasks, hnil, hpeer, htarget⟩

/-! ## Examples -/

/-- The fields of a peer that chooses nothing but its name. -/
def PeerForm.plain (name allowedIps : String) : PeerForm where
  name := name
  interfaceId := (Id.mk 0 : Id InterfaceMarker).display
  allowedIps := allowedIps
  primaryDns := ""
  secondaryDns := ""
  nat := none
  persistentKeepalive := ""
  publicKey := ""
  privateKey := ""

/-- The body of an edit that gives a peer a list of networks. -/
def UpdatePeerRequest.plain (name : String) (allowedIps : List String) : UpdatePeerRequest where
  name := name
  interfaceId := (Id.mk 0 : Id InterfaceMarker).display
  allowedIps := allowedIps
  primaryDns := none
  secondaryDns := none
  nat := false
  persistentKeepalive := none
  enabled := true
  publicKey := ""
  privateKey := ""

/-- The requests of an admin, at moments at which nothing fails. -/
def adminServed (requests : List Request) : List Served :=
  requests.map fun request => ⟨request, .calm (siteOf ⟨⟨0⟩, "admin", .admin⟩) .inserted⟩

/-- An interface and a peer are created, and the peer is edited with a list of networks. -/
def editedPeer (allowedIps : List String) : List Served :=
  adminServed
    [.web ⟨0⟩ (.createInterface (.plain "wg0" "10.7.0.0/24")),
      .web ⟨0⟩ (.createPeer (.plain "phone" "")),
      .api ⟨none, ⟨0⟩⟩ (.updatePeer (Id.mk 0 : Id PeerMarker).display (.plain "phone" allowedIps))]

/-- A request whose list has a text that is not blank empties no peer. -/
theorem not_empties {s : Site} {a : Served}
    (h : ∀ credentials path req, a.request = .api credentials (.updatePeer path req) →
      allBlank req.allowedIps = false) : ¬ a.Empties server s := by
  intro hempties
  obtain ⟨credentials, path, req, hrequest, hblank⟩ := empties_request hempties
  rw [h credentials path req hrequest] at hblank
  cases hblank

theorem peers_addressed_edited :
    let s := siteOf ⟨⟨0⟩, "admin", .admin⟩
    Runs.Always (serveStep (.reading .lab)) (fun s => Addressed s.host.db) s
      (editedPeer ["10.7.0.0/24"]) := by
  intro s
  refine peers_addressed (.reading .lab) s (editedPeer ["10.7.0.0/24"])
    (fun peer hpeer => by cases hpeer) ?_
  refine ⟨not_empties nofun, not_empties nofun, not_empties ?_, trivial⟩
  rintro credentials path req ⟨⟩
  decide +kernel

/-- A list with nothing but a blank text leaves the peer without an address. -/
theorem peer_emptied :
    let s := Runs.after (serveStep (.reading .lab)) (siteOf ⟨⟨0⟩, "admin", .admin⟩)
      (editedPeer [" "])
    s.host.db.peers.rows.map Peer.allowedIps = [[]] ∧ ¬ Addressed s.host.db := by
  intro s
  have hnets : s.host.db.peers.rows.map Peer.allowedIps = [[]] := by decide +kernel
  refine ⟨hnets, fun h => ?_⟩
  obtain ⟨peer, hpeer, hnil⟩ := List.mem_map.mp (hnets ▸ List.mem_singleton.mpr rfl)
  exact h peer hpeer hnil

end Wireforge
