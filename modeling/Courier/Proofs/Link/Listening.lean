import Courier.Link.Basic

/-!
# Finding a place to listen

A server tries to bind each address of its host on each port of its range, the ports from the
lowest up and the addresses in their order. It listens on the first that the system lets it have
and tries none after it, not even if the socket then does not tell its port. If there is none, it
fails as the last attempt did; there always is a last one, since a host has an address and a range
a port.
-/

namespace Courier

namespace Network

variable {net : Network} {a : Address}

/-- The system does not let this address be bound. -/
def Refuses (net : Network) (a : Address) : Prop := ∃ e, net.binding a = .error e

/-- Every socket tells the address that it is bound to. -/
def Telling (net : Network) : Prop := ∀ a, net.unnamed a = none

/-- A port that is asked for by its number is bound or nothing is; port zero asks for any. -/
def BindsAsAsked (net : Network) : Prop :=
  ∀ a port, net.binding a = .ok port → a.port ≠ 0 → port = a.port

/-- After attempts to bind these addresses, in this order: the attempts are on record, and nothing
else has changed. -/
def tried (net : Network) (l : List Address) : Network :=
  { net with log := (l.map fun a => ⟨net.now, .binds a⟩).reverse ++ net.log }

theorem tried_cons (l : List Address) :
    net.tried (a :: l) = (net.note (.binds a)).tried l := by
  simp [tried, note]

theorem tried_concat (l : List Address) :
    net.tried (l ++ [a]) = (net.tried l).note (.binds a) := by
  simp [tried, note]

end Network

namespace Link

variable {net : Network} {ports : PortRange} {hosts failed rest l : List Address} {a b : Address}
  {port i j : Nat} {last : IoError} {e : IoError} {s : ServerSettings}

/-! ## The order of the attempts -/

theorem length_targets (ports : PortRange) (hosts : List Address) :
    (targets ports hosts).length = (ports.high - ports.low + 1) * hosts.length := by
  simp only [targets, PortRange.ports, List.length_flatMap, List.length_map, List.map_const',
    List.length_range', List.sum_replicate_nat]

/-- The attempts on one port stand together, and they follow the order of the addresses. -/
theorem getElem?_flatMap_hosts (l : List Nat) (hj : j < hosts.length) (i : Nat) :
    (l.flatMap fun port => hosts.map fun a => { a with port })[i * hosts.length + j]? =
      l[i]?.bind fun port => hosts[j]?.map fun a => { a with port } := by
  induction l generalizing i with
  | nil => rfl
  | cons p l ih =>
    rw [List.flatMap_cons]
    cases i with
    | zero =>
      rw [Nat.zero_mul, Nat.zero_add, List.getElem?_append_left (by rwa [List.length_map]),
        List.getElem?_map]
      rfl
    | succ i =>
      rw [List.getElem?_append_right (by rw [List.length_map, Nat.succ_mul]; omega),
        List.length_map, show (i + 1) * hosts.length + j - hosts.length = i * hosts.length + j by
          rw [Nat.succ_mul]; omega, ih]
      rfl

theorem getElem?_targets (hi : i ≤ ports.high - ports.low) (hj : j < hosts.length) :
    (targets ports hosts)[i * hosts.length + j]? =
      hosts[j]?.map fun a => { a with port := ports.low + i } := by
  rw [targets, getElem?_flatMap_hosts _ hj, PortRange.ports, List.getElem?_range' (by omega),
    Nat.one_mul]
  rfl

theorem mem_targets : a ∈ targets ports hosts ↔
    (ports.low ≤ a.port ∧ a.port ≤ ports.high) ∧ ∃ h ∈ hosts, { h with port := a.port } = a := by
  simp only [targets, List.mem_flatMap, List.mem_map, PortRange.mem_ports]
  constructor
  · rintro ⟨port, hport, h, hh, rfl⟩
    exact ⟨hport, h, hh, rfl⟩
  · rintro ⟨hport, h, hh, heq⟩
    exact ⟨a.port, hport, h, hh, heq⟩

theorem pairwise_targets (ports : PortRange) (hosts : List Address) :
    (targets ports hosts).Pairwise fun a b => a.port ≤ b.port := by
  rw [targets, List.pairwise_flatMap]
  constructor
  · intro port _
    rw [List.pairwise_map]
    exact List.pairwise_of_forall fun _ _ => Nat.le_refl _
  · refine (List.pairwise_le_range' 1).imp fun hle => ?_
    intro x hx y hy
    obtain ⟨_, -, rfl⟩ := List.mem_map.mp hx
    obtain ⟨_, -, rfl⟩ := List.mem_map.mp hy
    exact hle

theorem targets_ne_nil (h : hosts ≠ []) (ports : PortRange) : targets ports hosts ≠ [] := by
  have hpos := List.length_pos_iff.mpr h
  have hlen := length_targets ports hosts
  rw [← List.length_pos_iff, hlen]
  exact Nat.mul_pos (Nat.succ_pos _) hpos

/-! ## The attempts -/

theorem exists_first_or_refused (net : Network) (l : List Address) :
    (∃ failed a rest port, l = failed ++ a :: rest ∧ (∀ b ∈ failed, net.Refuses b) ∧
      net.binding a = .ok port) ∨ ∀ b ∈ l, net.Refuses b := by
  induction l with
  | nil => exact .inr nofun
  | cons b l ih =>
    cases hb : net.binding b with
    | ok port => exact .inl ⟨[], b, l, port, rfl, nofun, hb⟩
    | error e =>
      rcases ih with ⟨failed, a, rest, port, rfl, hfailed, ha⟩ | hall
      · have hmore := List.forall_mem_cons.mpr ⟨⟨e, hb⟩, hfailed⟩
        exact .inl ⟨b :: failed, a, rest, port, rfl, hmore, ha⟩
      · exact .inr (List.forall_mem_cons.mpr ⟨⟨e, hb⟩, hall⟩)

theorem bindFirst_append (hfailed : ∀ b ∈ failed, net.Refuses b) (l : List Address)
    (last : IoError) :
    ∃ e, bindFirst last (failed ++ l) net = bindFirst e l (net.tried failed) := by
  induction failed generalizing net last with
  | nil => exact ⟨last, rfl⟩
  | cons b failed ih =>
    obtain ⟨⟨e, hb⟩, hfailed⟩ := List.forall_mem_cons.mp hfailed
    have hstep : bindFirst last (b :: failed ++ l) net =
        bindFirst e (failed ++ l) (net.note (.binds b)) := by
      rw [List.cons_append, bindFirst, Network.bind, hb]
    -- the outcomes are settled beforehand, so an attempt that is on record does not change them
    have hnoted : ∀ b' ∈ failed, (net.note (.binds b)).Refuses b' := hfailed
    rw [hstep, Network.tried_cons]
    exact ih hnoted e

theorem bindFirst_of_binds (hfailed : ∀ b ∈ failed, net.Refuses b)
    (ha : net.binding a = .ok port) (rest : List Address) (last : IoError) :
    bindFirst last (failed ++ a :: rest) net =
      (match net.unnamed a with
        | none => .ok port
        | some e => .error (.io e), net.tried (failed ++ [a])) := by
  obtain ⟨e, hsearch⟩ := bindFirst_append hfailed (a :: rest) last
  have hbinds : (net.tried failed).binding a = .ok port := ha
  have hsame : ((net.tried failed).note (.binds a)).unnamed a = net.unnamed a := rfl
  rw [hsearch, Network.tried_concat, bindFirst, Network.bind, hbinds]
  dsimp only
  rw [hsame]
  cases net.unnamed a <;> rfl

theorem bindFirst_of_refused (hfailed : ∀ b ∈ failed, net.Refuses b)
    (ha : net.binding a = .error e) (last : IoError) :
    bindFirst last (failed ++ [a]) net = (.error (.bind e), net.tried (failed ++ [a])) := by
  obtain ⟨e', hsearch⟩ := bindFirst_append hfailed [a] last
  have hrefuses : (net.tried failed).binding a = .error e := ha
  rw [hsearch, Network.tried_concat, bindFirst, Network.bind, hrefuses]
  rfl

theorem bindFirst_eq (h : l ≠ []) (last last' : IoError) (net : Network) :
    bindFirst last l net = bindFirst last' l net := by
  cases l with
  | nil => exact absurd rfl h
  | cons a l => rfl

/-! ## Setting a server up -/

theorem candidates_ne_nil (h : candidates s net = .ok hosts) : hosts ≠ [] := by
  unfold candidates at h
  split at h
  · exact net.resolve_ne_nil h
  · cases h
    exact List.cons_ne_nil _ _

/-- What comes of trying addresses in turn. The first that can be bound ends the search, with those
before it tried and none after it: a server listens there, or there is the error with which its
socket keeps its address to itself. Otherwise there is the error of the last, with all of them
tried. -/
inductive Settles (s : ServerSettings) (net : Network) :
    List Address → Except Failure Link × Network → Prop
  | listens {failed rest : List Address} {a : Address} {port : Nat}
      (hfailed : ∀ b ∈ failed, net.Refuses b) (ha : net.binding a = .ok port)
      (hnamed : net.unnamed a = none) :
      Settles s net (failed ++ a :: rest) (.ok (listening s port), net.tried (failed ++ [a]))
  | stops {failed rest : List Address} {a : Address} {port : Nat} {e : IoError}
      (hfailed : ∀ b ∈ failed, net.Refuses b) (ha : net.binding a = .ok port)
      (hunnamed : net.unnamed a = some e) :
      Settles s net (failed ++ a :: rest) (.error (.io e), net.tried (failed ++ [a]))
  | fails {failed : List Address} {a : Address} {e : IoError}
      (hfailed : ∀ b ∈ failed, net.Refuses b) (ha : net.binding a = .error e) :
      Settles s net (failed ++ [a]) (.error (.bind e), net.tried (failed ++ [a]))

theorem listen_of_bindFirst {o : Except Failure Nat} {after : Network}
    (hvalid : s.validate = .ok ()) (hhosts : candidates s net = .ok hosts)
    (h : bindFirst noCandidate (targets s.ports hosts) net = (o, after)) :
    listen s net = (o.map (listening s), after) := by
  simp only [listen, hvalid, hhosts, h]
  cases o <;> rfl

theorem exists_settles (s : ServerSettings) (net : Network) (hne : l ≠ []) (last : IoError) :
    ∃ o after, bindFirst last l net = (o, after) ∧
      Settles s net l (o.map (listening s), after) := by
  rcases exists_first_or_refused net l with ⟨failed, a, rest, port, rfl, hfailed, ha⟩ | hall
  · have hbound := bindFirst_of_binds hfailed ha rest last
    cases hnamed : net.unnamed a with
    | none =>
      rw [hnamed] at hbound
      exact ⟨_, _, hbound, .listens hfailed ha hnamed⟩
    | some e =>
      rw [hnamed] at hbound
      exact ⟨_, _, hbound, .stops hfailed ha hnamed⟩
  · obtain ⟨failed, a, heq⟩ := (List.eq_nil_or_concat _).resolve_left hne
    rw [List.concat_eq_append] at heq
    subst heq
    obtain ⟨hfailed, hlast⟩ := List.forall_mem_append.mp hall
    obtain ⟨e, ha⟩ := List.forall_mem_singleton.mp hlast
    exact ⟨_, _, bindFirst_of_refused hfailed ha last, .fails hfailed ha⟩

theorem settles_listen (hvalid : s.validate = .ok ()) (hhosts : candidates s net = .ok hosts) :
    Settles s net (targets s.ports hosts) (listen s net) := by
  have hne := targets_ne_nil (candidates_ne_nil hhosts) s.ports
  obtain ⟨o, after, hbind, hsettles⟩ := exists_settles s net hne noCandidate
  rwa [listen_of_bindFirst hvalid hhosts hbind]

theorem Settles.exists_listening {l : List Address} {result : Except Failure Link × Network}
    (h : Settles s net l result) (htelling : net.Telling) (ha : a ∈ l)
    (hbinds : net.binding a = .ok port) : ∃ link, result.1 = .ok link := by
  cases h with
  | listens => exact ⟨_, rfl⟩
  | stops _ _ hunnamed => cases (htelling _).symm.trans hunnamed
  | fails hfailed hlast =>
    -- every address has been refused, the given one too
    rcases List.mem_append.mp ha with hbefore | hend
    · obtain ⟨e, hrefused⟩ := hfailed a hbefore
      cases hbinds.symm.trans hrefused
    · rw [List.mem_singleton.mp hend] at hbinds
      cases hbinds.symm.trans hlast

/-- The lowest port of a server's range on which one of its hosts can be bound, and what it is
bound to. -/
structure LowestPort (s : ServerSettings) (net : Network) (hosts : List Address)
    (asked bound : Nat) : Prop where
  mem : s.ports.low ≤ asked ∧ asked ≤ s.ports.high
  binds : ∃ h ∈ hosts, net.binding { h with port := asked } = .ok bound
  lower : ∀ q, s.ports.low ≤ q → q < asked → ∀ h ∈ hosts, net.Refuses { h with port := q }

/-- The first address that can be bound has the lowest such port. -/
theorem lowestPort_of_first (heq : targets s.ports hosts = failed ++ a :: rest)
    (hfailed : ∀ b ∈ failed, net.Refuses b) (ha : net.binding a = .ok port) :
    LowestPort s net hosts a.port port := by
  have hmem : a ∈ targets s.ports hosts := by simp [heq]
  obtain ⟨hrange, h, hh, hsame⟩ := mem_targets.mp hmem
  refine ⟨hrange, ⟨h, hh, by rwa [hsame]⟩, fun q hlow hlt h hh => ?_⟩
  have hsorted := pairwise_targets s.ports hosts
  have htarget : { h with port := q } ∈ targets s.ports hosts :=
    mem_targets.mpr ⟨⟨hlow, Nat.le_trans (Nat.le_of_lt hlt) hrange.2⟩, h, hh, rfl⟩
  rw [heq] at hsorted htarget
  -- what comes after an address does not have a lower port
  rcases List.mem_append.mp htarget with hbefore | hafter
  · exact hfailed _ hbefore
  · have hafterwards := List.pairwise_cons.mp (List.pairwise_append.mp hsorted).2.1
    rcases List.mem_cons.mp hafter with heq | hrest
    · rw [← heq] at hlt
      exact absurd hlt (Nat.lt_irrefl _)
    · exact absurd hlt (Nat.not_lt.mpr (hafterwards.1 _ hrest))

/-- Settings that are not in order, and a host without an address, are refused before anything is
tried. Otherwise the addresses of the host are tried port by port, in their order on each, up to
the first that can be bound, and the server listens on the lowest port of its range on which one of
them can, unless the socket does not tell its port; if none can, the failure is that of the last
attempt. There is always an attempt, so the error that stands for none never comes out. -/
theorem listen_first_fit (s : ServerSettings) (net : Network) :
    (∀ f, s.validate = .error f → listen s net = (.error f, net)) ∧
    (∀ f, s.validate = .ok () → candidates s net = .error f → listen s net = (.error f, net)) ∧
    ∀ hosts, s.validate = .ok () → candidates s net = .ok hosts →
      (targets s.ports hosts).length = (s.ports.high - s.ports.low + 1) * hosts.length ∧
      (∀ i j, i ≤ s.ports.high - s.ports.low → j < hosts.length →
        (targets s.ports hosts)[i * hosts.length + j]? =
          hosts[j]?.map fun a => { a with port := s.ports.low + i }) ∧
      Settles s net (targets s.ports hosts) (listen s net) ∧
      (∀ l, (listen s net).1 = .ok l → ∃ asked bound,
        LowestPort s net hosts asked bound ∧ l = listening s bound ∧
        (net.BindsAsAsked → asked ≠ 0 → bound = asked)) ∧
      (net.Telling → ∀ a ∈ targets s.ports hosts, ∀ port, net.binding a = .ok port →
        ∃ l, (listen s net).1 = .ok l) ∧
      hosts ≠ [] ∧ s.ports.ports ≠ [] ∧
      ∀ last, bindFirst last (targets s.ports hosts) net =
        bindFirst noCandidate (targets s.ports hosts) net := by
  refine ⟨fun f hinvalid => ?_, fun f hvalid hunresolved => ?_, fun hosts hvalid hhosts => ?_⟩
  · rw [listen, hinvalid]
  · rw [listen, hvalid, hunresolved]
  · have hsettles := settles_listen hvalid hhosts
    have hne := candidates_ne_nil hhosts
    refine ⟨length_targets _ _, fun i j => getElem?_targets, hsettles, fun l hok => ?_,
      fun htelling a ha port => hsettles.exists_listening htelling ha, hne, s.ports.ports_ne_nil,
      fun last => bindFirst_eq (targets_ne_nil hne _) _ _ _⟩
    generalize htargets : targets s.ports hosts = all at hsettles
    generalize listen s net = result at hsettles hok
    cases hsettles with
    | @listens failed rest a port hfailed ha hnamed =>
      cases hok
      exact ⟨a.port, port, lowestPort_of_first htargets hfailed ha, rfl,
        fun hasked => hasked a port ha⟩
    | stops => cases hok
    | fails => cases hok

/-- A system on which one port is in use and IPv6 cannot be bound. -/
def crowded : Network where
  binding a :=
    if a.port = 21 then .error .addressInUse
    else
      match a.ip with
      | .v4 .. => .ok a.port
      | .v6 _ => .error .addressNotAvailable
  lookup _ := .error "unknown name"

theorem bindsAsAsked_crowded : crowded.BindsAsAsked := by
  intro a port h _
  unfold crowded at h
  dsimp only at h
  split at h
  · cases h
  · split at h <;> cases h
    rfl

/-- Of three ports the second is free for IPv4, and the server listens there; a host that is not
known and a frame size of zero are refused before anything is tried. -/
theorem listen_first_fit_crowded :
    let hosts : List Address := [⟨Ip.any6, 0⟩, ⟨Ip.any4, 0⟩]
    let s : ServerSettings := { ports := ⟨21, 23, by decide, by decide⟩ }
    let unknown : ServerSettings := { s with host := some "h" }
    let unusable : ServerSettings := { s with maxFrame := 0 }
    (listen s crowded).1 = .ok (listening s 22) ∧ LowestPort s crowded hosts 22 22 ∧
      listen unknown crowded = (.error (.resolve "h:0" "unknown name"), crowded) ∧
      ∃ text, listen unusable crowded = (.error (.settings text), crowded) := by
  intro hosts s unknown unusable
  have hvalid : s.validate = .ok () := rfl
  have hhosts : candidates s crowded = .ok hosts := rfl
  obtain ⟨-, -, hfits⟩ := listen_first_fit s crowded
  obtain ⟨-, -, -, hports, hlistens, -⟩ := hfits hosts hvalid hhosts
  have hmem : ⟨Ip.any4, 22⟩ ∈ targets s.ports hosts := by decide
  have hfree : crowded.binding ⟨Ip.any4, 22⟩ = .ok 22 := rfl
  obtain ⟨l, hok⟩ := hlistens (fun _ => rfl) _ hmem 22 hfree
  obtain ⟨asked, bound, hlowest, rfl, hasked⟩ := hports l hok
  have hlow : 21 ≤ asked := hlowest.mem.1
  -- nothing is bound on the first port, and on the second IPv4 is not refused
  have hfirst : asked ≠ 21 := by
    rintro rfl
    obtain ⟨h, -, hbinds⟩ := hlowest.binds
    have hused : crowded.binding { h with port := 21 } = .error .addressInUse := rfl
    cases hused.symm.trans hbinds
  have hsecond : asked ≤ 22 := by
    refine Nat.le_of_not_lt fun hlater => ?_
    obtain ⟨e, hrefused⟩ := hlowest.lower 22 (by decide) (by omega) ⟨Ip.any4, 0⟩ (by decide)
    cases hfree.symm.trans hrefused
  obtain rfl : asked = 22 := by omega
  obtain rfl : bound = 22 := hasked bindsAsAsked_crowded (by decide)
  have hunknown : candidates unknown crowded = .error (.resolve "h:0" "unknown name") := rfl
  refine ⟨hok, hlowest, ?_, ?_⟩
  · exact (listen_first_fit unknown crowded).2.1 _ rfl hunknown
  · exact ⟨_, (listen_first_fit unusable crowded).1 _ rfl⟩

end Link
end Courier
