import Courier.Proofs.Frame.Blocked
import Courier.Proofs.Link.Barring

/-!
# A stream on which a length is too large

The bytes that announce too large a frame stay with the link for as long as it has the
stream. What it writes does not touch them, and reading finds them before it would ask the
network for more, so every further call says the same. Only giving the stream up takes them
away, and then the stream does not come back.
-/

namespace Courier.Link

variable {l₀ l l' : Link} {net₀ net net' : Network} {e : Event} {tr es : List Event} {s d : Nat}

theorem broken_append : Broken s (tr ++ es) ↔ Broken s tr ∨ Broken s es := by
  simp only [Broken, List.mem_append, or_and_right, exists_or]

/-- The link has this stream, and the bytes it holds begin with a length that is too large. -/
structure Stuck (s d : Nat) (l : Link) : Prop where
  phase : l.phase = .connected s
  blocked : l.accumulator.Blocked d

/-! ## Reading -/

theorem gather_of_blocked {a : Accumulator} (h : a.Blocked d) (stream : Nat) (dir : Direction)
    (deadline : Nat) (net : Network) : gather stream dir deadline a net =
      (.returned (.error (.frame (.frameTooLarge d a.maxFrame))), a, net) := by
  unfold gather
  rw [h.pop_eq]

theorem Stuck.readFrame_eq (h : Stuck s d l) (hw : l.writing = false) (net : Network) :
    l.readFrame net =
      (.returned (.error (.frame (.frameTooLarge d l.maxFrame))), l, net) := by
  unfold readFrame
  rw [if_neg (by simp [hw]), h.phase]
  dsimp only
  rw [gather_of_blocked h.blocked, ← h.phase]
  rfl

theorem readFrame_of_writing (hw : l.writing = true) (net : Network) :
    l.readFrame net = (.returned (.error .interruptedWrite), l, net) :=
  if_pos hw

theorem stuck_of_readFrame {max : Nat} (hp : l.phase = .connected s)
    (h : l.readFrame net = (.returned (.error (.frame (.frameTooLarge d max))), l', net')) :
    Stuck s d l' ∧ l'.maxFrame = max ∧ l.writing = false := by
  have hw : l.writing = false := by
    rw [← Bool.not_eq_true]
    intro hw
    rw [readFrame_of_writing hw] at h
    cases h
  obtain ⟨a, hg, rfl⟩ := readFrame_connected hp hw h
  obtain ⟨-, -, -, hmax, -, got, -, hend⟩ := gather_spec hg
  generalize hleft : octets a.buffer = left at hend
  cases hend with
  | tooLarge n hsplit =>
    refine ⟨⟨hp, ?_⟩, hmax, hw⟩
    change Frame.split a.maxFrame (octets a.buffer) = _
    rw [hmax, hleft, hsplit]
  | idle hi => cases hi

/-! ## What comes after -/

theorem Gathered.blocked {a a' : Accumulator} {got : List UInt8}
    {o : Call (Except Failure (Option ByteArray))} (ha : a'.maxFrame = a.maxFrame)
    (h : Gathered a.maxFrame (octets a.buffer ++ got) o (octets a'.buffer))
    (hb : a.Blocked d) : a'.Blocked d := by
  have hsplit : Frame.split a.maxFrame (octets a.buffer ++ got) = ⟨[], .tooLarge d⟩ := by
    rw [Frame.split_append, hb]
  generalize hleft : octets a'.buffer = left at h
  cases h with
  | frame hm hd hbytes =>
    rw [hbytes, Frame.split_onWire_append left (by simpa using hm) (by simpa using hd)] at hsplit
    cases hsplit
  | tooLarge => rwa [← hleft, ← ha] at hsplit
  | idle _ hrest =>
    rw [hrest] at hsplit
    cases hsplit

namespace Change

theorem of_stuck (h : Change l net e l' net') (hc : Coherent l net) (hk : Stuck s d l) :
    Stuck s d l' ∨ Gone s l' net' := by
  have hfresh : ¬ l'.Fresh net' s := fun hf => hc.not_fresh hk.phase (h.fresh hf)
  cases h with
  | stays _ _ _ _ ha hp =>
    rcases hp with hp | ⟨b, b', hb, -⟩
    · exact .inl ⟨hp.trans hk.phase, ha ▸ hk.blocked⟩
    · rw [hk.phase] at hb
      cases hb
  | joins _ _ _ _ _ _ _ _ _ hs => exact absurd hk.phase (stream?_eq_none.mp hs s)
  | leaves _ _ _ _ _ hp =>
    refine .inr ⟨hfresh, ?_⟩
    intro hphase
    rcases hp with hp | ⟨-, b, hp⟩ <;> rw [hp] at hphase <;> cases hphase
  | transfers t hp ht =>
    have hphase := ht.phase.trans hk.phase
    cases ht with
    | refused => exact .inl hk
    | writes => exact .inl ⟨hphase, hk.blocked⟩
    | reads a got _ _ _ _ _ ha _ _ hend => exact .inl ⟨hphase, hend.blocked ha hk.blocked⟩

end Change

/-- The length is in its place for as long as the link has the stream. -/
theorem Run.stuck (hc : Coherent l net) (hk : Stuck s d l) (h : Run l net es l' net') :
    Stuck s d l' ∨ Gone s l' net' := by
  induction h with
  | nil => exact .inl hk
  | call hr hs ih =>
    have hcoh := hr.coherent hc
    have hchange := hs.change hcoh
    rcases ih with hk | hg
    · exact hchange.of_stuck hcoh hk
    · exact .inr (hchange.gone hg)
  | drift _ hd ih => exact ih.imp_right fun hg => hg.drift hd

/-- After a call that has met a length that is too large the link holds it for as long as it has
the stream, and only a write that has failed since is marked. -/
theorem Run.stuck_since {l₁ l₂ : Link} {net₁ net₂ : Network} {post : List Event} {max : Nat}
    (hs : Start l₀ net₀) (hr : Run l₀ net₀ tr l net) (hp : l.phase = .connected s)
    (hread : l.readFrame net = (.returned (.error (.frame (.frameTooLarge d max))), l₁, net₁))
    (hpost : Run l₁ net₁ post l₂ net₂) (hp₂ : l₂.phase = .connected s) :
    Stuck s d l₂ ∧ l₂.maxFrame = max ∧ (l₂.writing = true ↔ Broken s post) := by
  have hn := hs.new
  have hread₁ := hr.call (.readFrame hread)
  have hcoh := hread₁.coherent hn.coherent
  obtain ⟨hk, hmax, hw⟩ := stuck_of_readFrame hp hread
  refine ⟨?_, (hpost.maxFrame hcoh).trans hmax, ?_⟩
  · rcases hpost.stuck hcoh hk with hk₂ | hgone
    · exact hk₂
    · exact absurd hp₂ hgone.phase
  · -- before the length was met no write on the stream had failed
    have hwhole : ¬ Broken s tr := by simp [← (hr.sending hn).broken hp, hw]
    have hall := ((hread₁.trans hpost).sending hn).broken hp₂
    rwa [broken_append, broken_concat, or_iff_right] at hall
    rintro (hb | hb)
    · exact hwhole hb
    · cases hb

/-- A client next door whose server announces more than four thousand million bytes. -/
def overstating : Network where
  pipe _ d :=
    match d with
    | .toServer => {}
    | .toClient =>
      { written := packed [255, 255, 255, 255, 0, 0, 0, 1, 7]
        arrivals := [⟨0, .upTo 4⟩, ⟨0, .upTo 9⟩] }
  dials := [⟨0, .joined⟩]
  binding _ := .ok 9000
  lookup _ := .error "unknown name"

/-- The client when it has met that length, and the network then. -/
def balked : Link × Network := (nearbyLink.readFrame (connect nearby overstating).2).2

theorem start_overstating : Start nearbyLink (connect nearby overstating).2 := by
  have hu : Network.Untouched .client overstating := ⟨fun _ => rfl, fun _ => rfl⟩
  have h : connect nearby overstating =
      (.returned (.ok nearbyLink), (connect nearby overstating).2) := rfl
  exact .connect hu h

/-- However many calls are made after a length that is too large has been met, nothing is
handed on: each call that looks for a frame meets the same length, which is in the first four
bytes as before. Only `clear` ends this, and then the accumulator is as good as new. A link
that has met such a length reports it again at each further call on the stream, or that a
write on it has failed since, and reads nothing. -/
theorem tooLarge_sticks :
    (∀ (a : Accumulator) op e a₁ d max, a.run op = (e, a₁) →
      e.error? = some (.frameTooLarge d max) →
      ∀ ops events a₂, .clear ∉ ops → a₁.perform ops = (events, a₂) →
        Accumulator.handedOn events = [] ∧
        a₂.pop = (.error (.frameTooLarge d max), a₂) ∧
        a₂.needed = .error (.frameTooLarge d max) ∧
        (∀ bytes, a₂.size + bytes.size ≤ a₂.limit →
          (a₂.feed bytes).1 = .error (.frameTooLarge d max)) ∧
        Frame.headerSize ≤ a₁.size ∧ Frame.headerSize ≤ a₂.size ∧
        (octets a₁.buffer).take Frame.headerSize = bigEndian Frame.headerSize d ∧
        (octets a₂.buffer).take Frame.headerSize = bigEndian Frame.headerSize d ∧
        ∀ later, a₂.clear.perform later = (Accumulator.empty a.maxFrame).perform later) ∧
    ∀ l₀ net₀ tr l net s d max l₁ net₁, Start l₀ net₀ → Run l₀ net₀ tr l net →
      l.phase = .connected s →
      l.readFrame net = (.returned (.error (.frame (.frameTooLarge d max))), l₁, net₁) →
      ∀ post l₂ net₂, Run l₁ net₁ post l₂ net₂ → l₂.phase = .connected s →
        (¬ Broken s post → l₂.readFrame net₂ =
          (.returned (.error (.frame (.frameTooLarge d max))), l₂, net₂)) ∧
        (Broken s post → l₂.readFrame net₂ =
          (.returned (.error .interruptedWrite), l₂, net₂)) := by
  constructor
  · intro a op e a₁ d max hrun herror ops events a₂ hops hperform
    have hmet : (a.run op).1.error? = some (.frameTooLarge d max) := by rwa [hrun]
    obtain ⟨hfirst, hmax⟩ := Accumulator.blocked_of_error? hmet
    obtain ⟨hlast, hnone⟩ := hfirst.perform hops
    have hsame := ((a.run op).2.maxFrame_perform ops).trans (a.maxFrame_run op)
    rw [hrun] at hfirst
    rw [hrun, hperform] at hlast hnone hsame
    rw [← hmax, ← hsame]
    refine ⟨hnone, hlast.pop_eq, hlast.needed_eq, ?_, hfirst.take_eq.1, hlast.take_eq.1,
      hfirst.take_eq.2, hlast.take_eq.2, fun _ => rfl⟩
    intro bytes hfit
    rw [hlast.feed_eq hfit]
  · intro l₀ net₀ tr l net s d max l₁ net₁ hs hr hp hread post l₂ net₂ hpost hp₂
    obtain ⟨hk, hmax, hmark⟩ := hr.stuck_since hs hp hread hpost hp₂
    constructor
    · intro hb
      rw [← hmark, Bool.not_eq_true] at hb
      rw [hk.readFrame_eq hb, hmax]
    · intro hb
      exact readFrame_of_writing (hmark.mpr hb) net₂

theorem readFrame_overstating : nearbyLink.readFrame (connect nearby overstating).2 =
    (.returned (.error (.frame (.frameTooLarge 4294967295 Frame.maxSize))), balked) := by
  have h : (nearbyLink.readFrame (connect nearby overstating).2).1 =
      .returned (.error (.frame (.frameTooLarge 4294967295 Frame.maxSize))) := by decide +kernel
  exact Prod.ext h rfl

/-- A frame behind the length is never found, by an accumulator or by the client, which after
a write that does not get through reports that. -/
theorem tooLarge_sticks_overstating :
    let a : Accumulator := ⟨8, packed [0, 0, 0, 9]⟩
    (a.run .pop).1.error? = some (.frameTooLarge 9 8) ∧
    Accumulator.handedOn (a.perform [.extend (packed [0, 0, 0, 1, 7]), .pop, .measure]).1 = [] ∧
    balked.1.readFrame balked.2 =
      (.returned (.error (.frame (.frameTooLarge 4294967295 Frame.maxSize))), balked) ∧
    ∃ l net, Run balked.1 balked.2
        [.writes (some 0) (packed [7]) (.returned (.error .writeTimeout))] l net ∧
      l.readFrame net = (.returned (.error .interruptedWrite), l, net) := by
  intro a
  obtain ⟨haccumulator, hlink⟩ := tooLarge_sticks
  have herror : (a.run .pop).1.error? = some (.frameTooLarge 9 8) := by decide +kernel
  have hsame : (a.run .pop).2 = a := by with_unfolding_all rfl
  have hnone := haccumulator a .pop _ a 9 8 (Prod.ext rfl hsame) herror
    [.extend (packed [0, 0, 0, 1, 7]), .pop, .measure] _ _ (by simp) rfl
  have hphase : balked.1.phase = .connected 0 := by decide +kernel
  have hlater := hlink _ _ _ _ _ 0 _ _ balked.1 balked.2 start_overstating .nil rfl
    readFrame_overstating
  have ho : (balked.1.writeFrame (packed [7]) balked.2).1 =
      .returned (.error .writeTimeout) := by decide +kernel
  have hwrite : Run balked.1 balked.2
      [.writes balked.1.stream? (packed [7]) (.returned (.error .writeTimeout))]
      (balked.1.writeFrame (packed [7]) balked.2).2.1
      (balked.1.writeFrame (packed [7]) balked.2).2.2 :=
    Run.nil.call (.writeFrame (Prod.ext ho rfl))
  rw [stream?_eq_some.mpr hphase] at hwrite
  have hphase' : (balked.1.writeFrame (packed [7]) balked.2).2.1.phase = .connected 0 := by
    decide +kernel
  have hbroken : Broken 0 [.writes (some 0) (packed [7]) (.returned (.error .writeTimeout))] :=
    ⟨_, List.mem_singleton_self _, .intro _ (by simp)⟩
  exact ⟨herror, hnone.1, (hlater _ _ _ .nil hphase).1 not_broken_nil, _, _, hwrite,
    (hlater _ _ _ hwrite hphase').2 hbroken⟩

end Courier.Link
