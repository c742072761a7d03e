import Courier.Proofs.Endpoint.Steps

/-!
# The calls of an endpoint, one by one

Sending seals a message, frames it and writes the frame; whatever else happens
writes no whole frame. Receiving reads a frame and opens it. Either may first
make an attempt to get a stream, which transfers nothing.
-/

namespace Courier

namespace Link

variable {l l' : Link} {net net' : Network}

theorem writeFrame_ok {frame : ByteArray}
    (h : l.writeFrame frame net = (.returned (.ok ()), l', net')) :
    l' = l ∧ ∃ s, l.phase = .connected s := by
  unfold writeFrame at h
  split at h
  · cases h
  · split at h
    · rename_i s hp
      split at h
      · cases h
        exact ⟨rfl, s, hp⟩
      · rename_i hne _
        cases h
        exact absurd rfl hne
    · cases h

theorem readFrame_some {frame : ByteArray}
    (h : l.readFrame net = (.returned (.ok (some frame)), l', net')) :
    ∃ s, l.phase = .connected s ∧ l'.phase = .connected s := by
  by_cases hw : l.writing = true
  · rw [readFrame, if_pos hw] at h
    cases h
  · have hw : l.writing = false := by simpa using hw
    cases hs : l.stream? with
    | none =>
      rw [readFrame_unconnected hs hw] at h
      cases h
    | some s =>
      have hp := stream?_eq_some.mp hs
      obtain ⟨a, -, rfl⟩ := readFrame_connected hp hw h
      exact ⟨s, hp, hp⟩

@[simp] theorem role_readFrame (l : Link) (net : Network) :
    (l.readFrame net).2.1.role = l.role := by
  unfold readFrame
  split
  · rfl
  · split <;> rfl

@[simp] theorem maxFrame_accept (l : Link) (net : Network) :
    (l.accept net).2.1.maxFrame = l.maxFrame := by
  unfold accept
  split
  · split <;> (try split) <;> rfl
  · rfl

@[simp] theorem maxFrame_tryReconnect (l : Link) (net : Network) :
    (l.tryReconnect net).2.1.maxFrame = l.maxFrame := by
  unfold tryReconnect
  split
  · split
    · split <;> rfl
    · rfl
  · rfl

theorem phase_tearDown (s : Nat) : (l.tearDown net).1.phase ≠ .connected s := by
  unfold tearDown
  dsimp only
  split
  · simp
  · simp [close]

end Link

namespace Endpoint

variable {κ α : Type} [Cipher κ] {P : κ → Prop} {e e' : Endpoint κ α} {net net' : Network}

/-! ## Sending -/

theorem pack_spec {payload : ByteArray} {now : Nat} {r : Except Failure ByteArray}
    (hk : Cipher.Keeps P) (hp : P e.cipher) (h : e.pack payload now = (r, e')) :
    e'.link = e.link ∧ P e'.cipher ∧ ∀ frame, r = .ok frame →
      ∃ body, Seals P e.link.role payload body ∧ Framed frame body ∧
        body.size ≤ e.link.maxFrame := by
  unfold pack stamp at h
  dsimp only at h
  generalize hrec : ({ direction := e.link.role.outgoing, .. } : Record) = record at h
  have hkept := hk.encrypt e.cipher record.encode hp
  split at h
  · rename_i f cipher hc
    cases h
    rw [hc] at hkept
    exact ⟨rfl, hkept, nofun⟩
  · rename_i body cipher hc
    rw [hc] at hkept
    split at h
    · cases h
      exact ⟨rfl, hkept, nofun⟩
    · rename_i frame hframe
      cases h
      refine ⟨rfl, hkept, ?_⟩
      rintro frame ⟨⟩
      obtain ⟨hmax, hd, hoct⟩ := Frame.encode_eq_ok_iff.mp hframe
      refine ⟨body, ⟨e.cipher, record, hp, by rw [hc], ?_, ?_⟩, ⟨hoct, hd⟩, hmax⟩ <;> rw [← hrec]

theorem Does.of_written {frame payload body : ByteArray} {link : Link}
    (hw : e.link.writeFrame frame net = (.returned (.ok ()), link, net')) (he : e'.link = link)
    (hp : P e'.cipher) (hs : Seals P e.link.role payload body) (hf : Framed frame body)
    (hmax : body.size ≤ e.link.maxFrame) :
    Does P e net (.sends e'.link.stream? payload (.returned (.ok .sent))) e' net'
      [.writes e.link.stream? frame (.returned (.ok ()))] := by
  obtain ⟨rfl, s, hphase⟩ := Link.writeFrame_ok hw
  have hcalls := Link.Calls.single (.writeFrame hw)
  refine ⟨?_, hp, ?_, ?_, ?_⟩
  · rw [he]
    exact hcalls
  · intro t frame' o hmem
    obtain ⟨-, rfl, -⟩ := Link.Event.writes.inj (List.mem_singleton.mp hmem)
    exact ⟨body, hf, hmax⟩
  · intro t
    rw [he, Link.stream?_eq_some.mpr hphase]
    by_cases ht : s = t
    · exact .message (by simp [Event.sent?, ht])
        (by simp [Link.wholeOn, Link.Event.whole?, ht]) hs hf
    · exact .nothing (by simp [Event.sent?, ht])
        (by simp [Link.wholeOn, Link.Event.whole?, ht])
  · intro t
    exact .nothing rfl rfl

theorem Does.of_unwritten {frame body : ByteArray} {outcome : Call (Except Failure Unit)}
    {ev : Event} {es : List Link.Event}
    (hc : Link.Calls e.link net (.writes e.link.stream? frame outcome :: es) e'.link net')
    (hp : P e'.cipher) (hf : Framed frame body) (hmax : body.size ≤ e.link.maxFrame)
    (ho : outcome ≠ .returned (.ok ()))
    (hes : ∀ x ∈ es, x.on = none) (hs : ∀ s, ev.sent? s = none)
    (hr : ∀ s, ev.received? s = none) :
    Does P e net ev e' net' (.writes e.link.stream? frame outcome :: es) := by
  refine ⟨hc, hp, ?_, ?_, ?_⟩
  · intro t frame' o hmem
    rcases List.mem_cons.mp hmem with heq | hmem
    · obtain ⟨-, rfl, -⟩ := Link.Event.writes.inj heq
      exact ⟨body, hf, hmax⟩
    · cases hes _ hmem
  · intro t
    have hnone : Link.Event.whole? t (.writes e.link.stream? frame outcome) = none := by
      unfold Link.Event.whole?
      split
      · rename_i heq
        cases heq
        exact absurd rfl ho
      · rfl
    have hrest := Link.wholeOn_eq_nil (off_of_on_eq_none hes t)
    refine .nothing (hs t) ?_
    rw [Link.wholeOn, List.filterMap_cons_none hnone]
    exact hrest
  · intro t
    have hrest := Link.framesOn_eq_nil (off_of_on_eq_none hes t)
    refine .nothing (hr t) ?_
    rw [Link.framesOn, List.filterMap_cons_none rfl]
    exact hrest

theorem does_sendConnected {payload : ByteArray} {o : Call (Except Failure Sent)}
    (hk : Cipher.Keeps P) (hp : P e.cipher) (h : e.sendConnected payload net = (o, e', net')) :
    ∃ es, Does P e net (.sends e'.link.stream? payload o) e' net' es := by
  unfold sendConnected at h
  generalize hpack : e.pack payload net.now = packed at h
  obtain ⟨r, e₁⟩ := packed
  obtain ⟨hlink, hkept, hframe⟩ := pack_spec hk hp hpack
  cases r with
  | error f =>
    cases h
    exact ⟨[], .quiet (hlink ▸ .nil) hkept (by simp) (fun _ => rfl) (fun _ => rfl)⟩
  | ok frame =>
    obtain ⟨body, hseals, hframed, hmax⟩ := hframe frame rfl
    dsimp only at h
    generalize hwrite : e₁.link.writeFrame frame net = w at h
    obtain ⟨outcome, link, after⟩ := w
    rw [hlink] at hwrite
    have hstep := Link.Step.writeFrame hwrite
    cases outcome with
    | abandoned =>
      cases h
      exact ⟨_, .of_unwritten (.single hstep) hkept hframed hmax (by simp) (by simp)
        (fun _ => rfl) (fun _ => rfl)⟩
    | returned result =>
      cases result with
      | ok u =>
        cases h
        exact ⟨_, .of_written hwrite rfl hkept hseals hframed hmax⟩
      | error f =>
        dsimp only [lose] at h
        have hafter : (o = .returned (.ok .dropped) ∨ o = .returned (.error f)) ∧
            net' = (link.tearDown after).2 ∧
            e' = { e₁ with link := (link.tearDown after).1, sendFault := some (.failed f) } := by
          split at h <;> cases h
          · exact ⟨.inl rfl, rfl, rfl⟩
          · exact ⟨.inr rfl, rfl, rfl⟩
        obtain ⟨ho, rfl, rfl⟩ := hafter
        have hcalls := Link.Calls.cons hstep (.single (.tearDown rfl))
        refine ⟨_, .of_unwritten hcalls hkept hframed hmax (by simp) ?_ ?_ (fun _ => rfl)⟩
        · exact List.forall_mem_singleton.mpr rfl
        · rcases ho with rfl | rfl <;> exact fun _ => rfl

omit [Cipher κ] in
theorem prepare_spec {o : Call Unit} (h : e.prepare net = (o, e', net')) :
    ∃ pre, Link.Calls e.link net pre e'.link net' ∧ (∀ x ∈ pre, x.on = none) ∧
      e'.link.role = e.link.role ∧ e'.link.maxFrame = e.link.maxFrame ∧
      e'.cipher = e.cipher := by
  unfold prepare at h
  split at h
  · cases h
    exact ⟨[], .nil, by simp, rfl, rfl, rfl⟩
  · dsimp only at h
    cases h
    exact ⟨[.reconnects (e.link.tryReconnect net).1], .single (.tryReconnect rfl),
      fun x hx => by rw [List.mem_singleton.mp hx]; rfl, Link.role_tryReconnect _ _,
      Link.maxFrame_tryReconnect _ _, rfl⟩

theorem does_send {payload : ByteArray} {o : Call (Except Failure Sent)}
    (hk : Cipher.Keeps P) (hp : P e.cipher) (h : e.send payload net = (o, e', net')) :
    ∃ es, Does P e net (.sends e'.link.stream? payload o) e' net' es := by
  unfold send at h
  generalize hprep : e.prepare net = prepared at h
  obtain ⟨outcome, e₁, net₁⟩ := prepared
  obtain ⟨pre, hcalls, hpre, hrole, hmax, hcipher⟩ := prepare_spec hprep
  rw [← hcipher] at hp
  cases outcome with
  | abandoned =>
    cases h
    exact ⟨pre, .quiet hcalls hp hpre (fun _ => rfl) (fun _ => rfl)⟩
  | returned u =>
    dsimp only at h
    split at h
    · obtain ⟨es, hdoes⟩ := does_sendConnected hk hp h
      exact ⟨pre ++ es, hdoes.after hcalls hpre hrole hmax⟩
    · cases h
      exact ⟨pre, .quiet hcalls hp hpre (fun _ => rfl) (fun _ => rfl)⟩
    · cases h
      exact ⟨pre, .quiet hcalls hp hpre (fun _ => rfl) (fun _ => rfl)⟩
    · cases h
      exact ⟨pre, .quiet hcalls hp hpre (fun _ => rfl) (fun _ => rfl)⟩

/-! ## Receiving -/

theorem openFrame_spec {frame : ByteArray} {r : Except Failure Record} (hk : Cipher.Keeps P)
    (hp : P e.cipher) (h : e.openFrame frame = (r, e')) :
    e'.link = e.link ∧ P e'.cipher ∧
      ∀ record, r = .ok record → Opens P e.link.role record.payload frame := by
  unfold openFrame at h
  have hkept := hk.decrypt e.cipher frame hp
  split at h
  · rename_i f cipher hc
    cases h
    rw [hc] at hkept
    exact ⟨rfl, hkept, nofun⟩
  · rename_i plain cipher hc
    rw [hc] at hkept
    split at h
    · cases h
      exact ⟨rfl, hkept, nofun⟩
    · rename_i record hdecode
      split at h
      · rename_i hdir
        cases h
        refine ⟨rfl, hkept, ?_⟩
        rintro record ⟨⟩
        exact ⟨e.cipher, plain, _, hp, by rw [hc], hdecode, hdir, rfl⟩
      · cases h
        exact ⟨rfl, hkept, nofun⟩

omit [Cipher κ] in
@[simp] theorem link_heed [Scalar α] (record : Record) (now : Nat) :
    (e.heed record now).link = e.link := rfl

omit [Cipher κ] in
@[simp] theorem cipher_heed [Scalar α] (record : Record) (now : Nat) :
    (e.heed record now).cipher = e.cipher := rfl

/-- What reading a record comes to, before anything is given up. -/
theorem receiveRecord_spec [Scalar α] {o : Call (Except Failure (Option ByteArray))}
    (hk : Cipher.Keeps P) (hp : P e.cipher) (h : e.receiveRecord net = (o, e', net')) :
    ∃ r, Link.Step e.link net (.reads e.link.stream? r) e'.link net' ∧ P e'.cipher ∧
      e'.link.role = e.link.role ∧
      ((o = .abandoned ∨ o = .returned (.ok none)) ∧ Link.handed r = none ∨
        (∃ payload frame, o = .returned (.ok (some payload)) ∧ Link.handed r = some frame ∧
          (∃ s, e.link.phase = .connected s ∧ e'.link.phase = .connected s) ∧
          Opens P e.link.role payload frame) ∨
        ∃ f, o = .returned (.error f)) := by
  unfold receiveRecord at h
  generalize hread : e.link.readFrame net = w at h
  obtain ⟨r, link, after⟩ := w
  have hstep := Link.Step.readFrame hread
  have hrole : link.role = e.link.role := by
    have := e.link.role_readFrame net
    rwa [hread] at this
  cases r with
  | abandoned =>
    cases h
    exact ⟨_, hstep, hp, hrole, .inl ⟨.inl rfl, rfl⟩⟩
  | returned result =>
    cases result with
    | error f =>
      cases h
      exact ⟨_, hstep, hp, hrole, .inr (.inr ⟨f, rfl⟩)⟩
    | ok frame? =>
      cases frame? with
      | none =>
        cases h
        exact ⟨_, hstep, hp, hrole, .inl ⟨.inr rfl, rfl⟩⟩
      | some frame =>
        dsimp only at h
        generalize hopen : openFrame { e with link } frame = opened at h
        obtain ⟨res, e₁⟩ := opened
        obtain ⟨hlink, hkept, hopens⟩ := openFrame_spec (e := { e with link }) hk hp hopen
        have hlink : e₁.link = link := hlink
        subst hlink
        cases res with
        | error f =>
          cases h
          exact ⟨_, hstep, hkept, hrole, .inr (.inr ⟨f, rfl⟩)⟩
        | ok record =>
          simp only [Prod.mk.injEq] at h
          obtain ⟨rfl, rfl, rfl⟩ := h
          refine ⟨_, hstep, hkept, hrole, .inr (.inl ⟨_, frame, rfl, rfl, ?_, ?_⟩)⟩
          · exact Link.readFrame_some hread
          · have := hopens record rfl
            rwa [show ({ e with link := e₁.link } : Endpoint κ α).link.role = e.link.role
              from hrole] at this

theorem does_receiveConnected [Scalar α] {o : Call (Except Failure Received)}
    (hk : Cipher.Keeps P) (hp : P e.cipher) (h : e.receiveConnected net = (o, e', net')) :
    ∃ es, Does P e net (.receives e'.link.stream? o) e' net' es := by
  unfold receiveConnected at h
  generalize hrec : e.receiveRecord net = w at h
  obtain ⟨r, e₁, after⟩ := w
  obtain ⟨read, hstep, hkept, hrole, hcases⟩ := receiveRecord_spec hk hp hrec
  have hquiet : ∀ s frame o', Link.Event.writes (some s) frame o' ∉
      [Link.Event.reads e.link.stream? read] := by simp
  rcases hcases with ⟨hr, hnone⟩ | ⟨payload, frame, rfl, hsome, ⟨s, hs, hs'⟩, hopens⟩ | ⟨f, rfl⟩
  · have hnothing : ∀ s, Link.framesOn s [.reads e.link.stream? read] = [] := by
      simp [Link.framesOn, Link.Event.frame?, hnone]
    rcases hr with rfl | rfl <;> cases h
    · exact ⟨_, .single hstep, hkept, fun s frame o' hmem => absurd hmem (hquiet s frame o'),
        fun _ => .nothing rfl rfl, fun s => .nothing rfl (hnothing s)⟩
    · exact ⟨_, .single hstep, hkept, fun s frame o' hmem => absurd hmem (hquiet s frame o'),
        fun _ => .nothing rfl rfl, fun s => .nothing rfl (hnothing s)⟩
  · cases h
    refine ⟨_, .single hstep, hkept, fun s frame o' hmem => absurd hmem (hquiet s frame o'),
      fun _ => .nothing rfl rfl, fun t => ?_⟩
    rw [Link.stream?_eq_some.mpr hs, Link.stream?_eq_some.mpr hs']
    by_cases ht : s = t
    · exact .message (by simp [Event.received?, ht])
        (by simp [Link.framesOn, Link.Event.frame?, hsome, ht]) hopens
    · exact .nothing (by simp [Event.received?, ht])
        (by simp [Link.framesOn, Link.Event.frame?, ht])
  · dsimp only [lose] at h
    have hafter : (∀ b, o ≠ .returned (.ok (.payload b))) ∧
        e' = { e₁ with link := (e₁.link.tearDown after).1 } ∧
        net' = (e₁.link.tearDown after).2 := by
      split at h <;> cases h
      · exact ⟨by simp, rfl, rfl⟩
      · exact ⟨by simp, rfl, rfl⟩
    obtain ⟨ho, rfl, rfl⟩ := hafter
    refine ⟨[.reads e.link.stream? read, .tearsDown], .cons hstep (.single (.tearDown rfl)), hkept,
      by simp, fun _ => .nothing rfl rfl, fun s => .rejected ?_ (Link.phase_tearDown s)⟩
    unfold Event.received?
    split
    · rename_i heq
      cases heq
      exact absurd rfl (ho _)
    · rfl

theorem does_receive [Scalar α] {o : Call (Except Failure Received)} (hk : Cipher.Keeps P)
    (hp : P e.cipher) (h : e.receive net = (o, e', net')) :
    ∃ es, Does P e net (.receives e'.link.stream? o) e' net' es := by
  unfold receive at h
  split at h
  · exact does_receiveConnected hk hp h
  · generalize hacc : e.link.accept net = w at h
    obtain ⟨r, link, after⟩ := w
    have hrole : link.role = e.link.role := by
      have := Link.role_accept e.link net
      rwa [hacc] at this
    have hmax : link.maxFrame = e.link.maxFrame := by
      have := Link.maxFrame_accept e.link net
      rwa [hacc] at this
    have hcalls := Link.Calls.single (.accept hacc)
    have hpre : ∀ x ∈ [Link.Event.accepts r], x.on = none := by simp [Link.Event.on]
    split at h <;> rename_i heq <;> cases heq
    · cases h
      exact ⟨_, .quiet hcalls hp hpre (fun _ => rfl) (fun _ => rfl)⟩
    · cases h
      exact ⟨_, .quiet hcalls hp hpre (fun _ => rfl) (fun _ => rfl)⟩
    · cases h
      exact ⟨_, .quiet hcalls hp hpre (fun _ => rfl) (fun _ => rfl)⟩
    · obtain ⟨es, hdoes⟩ := does_receiveConnected (e := { e with link }) hk hp h
      exact ⟨_, hdoes.after hcalls hpre hrole hmax⟩
  · generalize htry : e.link.tryReconnect net = w at h
    obtain ⟨r, link, after⟩ := w
    have hrole : link.role = e.link.role := by
      have := Link.role_tryReconnect e.link net
      rwa [htry] at this
    have hmax : link.maxFrame = e.link.maxFrame := by
      have := Link.maxFrame_tryReconnect e.link net
      rwa [htry] at this
    have hcalls := Link.Calls.single (.tryReconnect htry)
    have hpre : ∀ x ∈ [Link.Event.reconnects r], x.on = none := by simp [Link.Event.on]
    split at h <;> rename_i heq <;> cases heq
    · cases h
      exact ⟨_, .quiet hcalls hp hpre (fun _ => rfl) (fun _ => rfl)⟩
    · cases h
      exact ⟨_, .quiet hcalls hp hpre (fun _ => rfl) (fun _ => rfl)⟩
    · obtain ⟨es, hdoes⟩ := does_receiveConnected (e := { e with link }) hk hp h
      exact ⟨_, hdoes.after hcalls hpre hrole hmax⟩
  · split at h <;> cases h
    · exact ⟨[], .quiet .nil hp (by simp) (fun _ => rfl) (fun _ => rfl)⟩
    · exact ⟨[], .quiet .nil hp (by simp) (fun _ => rfl) (fun _ => rfl)⟩

/-- Every call on an endpoint is a few operations on its link. -/
theorem Step.does [Scalar α] {ev : Event} (hk : Cipher.Keeps P) (hp : P e.cipher)
    (h : Step e net ev e' net') : ∃ es, Does P e net ev e' net' es := by
  cases h with
  | send h => exact does_send hk hp h
  | receive h => exact does_receive hk hp h
  | close h =>
    unfold Endpoint.close at h
    cases h
    exact ⟨[.closes], .quiet (.single (.close rfl)) hp (by simp [Link.Event.on]) (fun _ => rfl)
      (fun _ => rfl)⟩
  | setIoTimeout t =>
    exact ⟨[.adjusts t], .quiet (.single (.setIoTimeout t)) hp (by simp [Link.Event.on])
      (fun _ => rfl) (fun _ => rfl)⟩
  | setLastRoundTrip ms => exact ⟨[], .quiet .nil hp (by simp) (fun _ => rfl) (fun _ => rfl)⟩

end Endpoint
end Courier
