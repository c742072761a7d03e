import Courier.Proofs.Frame.Chunks
import Mathlib.Logic.Function.Iterate

/-!
# How many bytes are needed

An accumulator can say how many bytes its next frame lacks, or the length of that frame while
it is not complete. With fewer bytes there is no frame to hand on, and with as many the
length is complete, or the frame. So whoever reads no more than is needed at a time
gets each frame in two reads, and never a byte of the one behind it.
-/

namespace Courier.Accumulator

variable (a : Accumulator) {n : Nat} {bytes : ByteArray}

/-! ## The frame at the front -/

/-- What is known of the frame at the front: its length is not complete, or too large, or so
many bytes of content belong to it. -/
inductive Front : Except FrameError (Option Nat) → Prop
  | short (h : a.size < Frame.headerSize) : Front (.ok none)
  | tooLarge (n : Nat) (h : Frame.headerSize ≤ a.size) (hn : a.maxFrame < n) :
      Front (.error (.frameTooLarge n a.maxFrame))
  | announced (n : Nat) (h : Frame.headerSize ≤ a.size) (hn : n ≤ a.maxFrame) :
      Front (.ok (some n))

theorem front : a.Front a.declared := by
  unfold declared
  split
  · exact .short ‹_›
  · rename_i hlong
    dsimp only
    split
    · exact .tooLarge _ (Nat.le_of_not_lt hlong) ‹_›
    · exact .announced _ (Nat.le_of_not_lt hlong) (Nat.le_of_not_lt ‹_›)

theorem declared_of_size_lt (h : a.size < Frame.headerSize) : a.declared = .ok none := if_pos h

theorem declared_append (h : Frame.headerSize ≤ a.size) (bytes : ByteArray) :
    { a with buffer := a.buffer ++ bytes }.declared = a.declared := by
  have hshort : ¬ (octets a.buffer).length < Frame.headerSize := Nat.not_lt.mpr h
  have hshort' : ¬ (octets a.buffer ++ octets bytes).length < Frame.headerSize := by
    rw [List.length_append]
    omega
  have htake : (octets a.buffer ++ octets bytes).take Frame.headerSize =
      (octets a.buffer).take Frame.headerSize := List.take_append_of_le_length h
  rw [declared_eq, declared_eq, octets_append, if_neg hshort, if_neg hshort', htake]

theorem pop_of_declared_eq_none (h : a.declared = .ok none) : a.pop = (.ok none, a) := by
  unfold pop
  rw [h]

theorem pop_of_part (h : a.declared = .ok (some n)) (hs : a.size < Frame.headerSize + n) :
    a.pop = (.ok none, a) := by
  unfold pop
  rw [h]
  exact if_pos hs

theorem pop_of_whole (h : a.declared = .ok (some n)) (hs : Frame.headerSize + n ≤ a.size) :
    a.pop = (.ok (some (a.buffer.extract Frame.headerSize (Frame.headerSize + n))),
      { a with buffer := a.buffer.extract (Frame.headerSize + n) a.size }) := by
  unfold pop
  rw [h]
  exact if_neg (Nat.not_lt.mpr hs)

theorem pop_of_exact (h : a.declared = .ok (some n)) (hs : a.size = Frame.headerSize + n) :
    ∃ frame, a.pop = (.ok (some frame), empty a.maxFrame) ∧
      octets frame = (octets a.buffer).drop Frame.headerSize := by
  have hall : (octets a.buffer).take a.size = octets a.buffer := List.take_length
  have hrest : a.buffer.extract a.size a.size = ByteArray.empty := by
    rw [← octets_inj, octets_extract, hall]
    exact List.drop_length
  have hpop := a.pop_of_whole h (Nat.le_of_eq hs.symm)
  rw [← hs, hrest] at hpop
  exact ⟨_, hpop, by rw [octets_extract, hall]⟩

/-! ## What is needed -/

theorem needed_eq_error_iff {e : FrameError} : a.needed = .error e ↔ a.pop.1 = .error e := by
  unfold needed pop
  cases a.declared with
  | error e => simp
  | ok size? =>
    cases size? with
    | none => simp
    | some n =>
      dsimp only
      split <;> simp

theorem needed_eq_zero_iff : a.needed = .ok 0 ↔ ∃ frame, a.pop.1 = .ok (some frame) := by
  have hfront := a.front
  unfold needed
  cases hd : a.declared with
  | error e =>
    unfold pop
    simp [hd]
  | ok size? =>
    rw [hd] at hfront
    cases hfront with
    | short h =>
      simp only [a.pop_of_declared_eq_none hd, Except.ok.injEq, reduceCtorEq, exists_false, iff_false]
      exact Nat.sub_ne_zero_of_lt h
    | announced n h hn =>
      dsimp only
      by_cases hs : a.size < Frame.headerSize + n
      · simp only [a.pop_of_part hd hs, Except.ok.injEq, reduceCtorEq, exists_false, iff_false]
        exact Nat.sub_ne_zero_of_lt hs
      · simp only [a.pop_of_whole hd (Nat.le_of_not_lt hs), Except.ok.injEq, Option.some.injEq,
          exists_eq', iff_true]
        exact Nat.sub_eq_zero_of_le (Nat.le_of_not_lt hs)

/-- What is lacking, if so many bytes are: the rest of the length, or of the frame. -/
inductive Lacks (n : Nat) : Prop
  | header (h : a.size < Frame.headerSize) (heq : a.size + n = Frame.headerSize)
  | content (size : Nat) (h : Frame.headerSize ≤ a.size) (hd : a.declared = .ok (some size))
      (hle : size ≤ a.maxFrame) (heq : a.size + n = Frame.headerSize + size)

theorem lacks_of_needed (h : a.needed = .ok n) (hn : 0 < n) : a.Lacks n := by
  have hfront := a.front
  unfold needed at h
  cases hd : a.declared with
  | error e =>
    rw [hd] at h
    cases h
  | ok size? =>
    rw [hd] at h hfront
    cases hfront with
    | short hs =>
      cases h
      exact .header hs (Nat.add_sub_of_le (Nat.le_of_lt hs))
    | announced size hs hle =>
      cases h
      exact .content size hs hd hle (Nat.add_sub_of_le (Nat.le_of_lt (Nat.lt_of_sub_pos hn)))

namespace Lacks

variable {a}

theorem size_add_le (h : a.Lacks n) : a.size + n ≤ a.limit := by
  unfold limit
  cases h with
  | header h heq => omega
  | content size h hd hle heq => omega

theorem extend_eq (h : a.Lacks n) (hb : bytes.size ≤ n) :
    a.extend bytes = (.ok (), { a with buffer := a.buffer ++ bytes }) :=
  a.extend_eq_ok (Nat.le_trans (Nat.add_le_add_left hb _) h.size_add_le)

theorem pop_of_lt (h : a.Lacks n) (hb : bytes.size < n) :
    { a with buffer := a.buffer ++ bytes }.pop =
      (.ok none, { a with buffer := a.buffer ++ bytes }) := by
  cases h with
  | header h heq =>
    refine pop_of_declared_eq_none _ (declared_of_size_lt _ ?_)
    rw [size, ByteArray.size_append]
    unfold size at heq
    omega
  | content size h hd hle heq =>
    refine pop_of_part (n := size) _ ((a.declared_append h bytes).trans hd) ?_
    rw [Accumulator.size, ByteArray.size_append]
    unfold Accumulator.size at heq
    omega

theorem of_eq (h : a.Lacks n) (hb : bytes.size = n) :
    (a.size < Frame.headerSize →
      { a with buffer := a.buffer ++ bytes }.size = Frame.headerSize) ∧
    (Frame.headerSize ≤ a.size → ∃ frame,
      { a with buffer := a.buffer ++ bytes }.pop = (.ok (some frame), empty a.maxFrame) ∧
        octets frame = (octets a.buffer ++ octets bytes).drop Frame.headerSize) := by
  have hsize : { a with buffer := a.buffer ++ bytes }.size = a.size + n := by
    rw [size, ByteArray.size_append, hb]
    rfl
  cases h with
  | header h heq => exact ⟨fun _ => hsize.trans heq, fun hle => absurd h (Nat.not_lt.mpr hle)⟩
  | content size h hd hle heq =>
    refine ⟨fun hlt => absurd h (Nat.not_le.mpr hlt), fun _ => ?_⟩
    have hexact := pop_of_exact _ ((a.declared_append h bytes).trans hd) (hsize.trans heq)
    rwa [octets_append] at hexact

end Lacks

/-! ## Taking in what is needed -/

/-- Takes in as many bytes from the front of a stream as are needed, so many times, and leaves
the rest of the stream. -/
def topUp : Nat → Accumulator → List UInt8 → Accumulator × List UInt8
  | 0, a, stream => (a, stream)
  | rounds + 1, a, stream =>
    match a.needed with
    | .error _ => (a, stream)
    | .ok n => topUp rounds (a.extend (packed (stream.take n))).2 (stream.drop n)

section Rounds

variable {payload : ByteArray} {wire : List UInt8} {max size rounds : Nat}

/-- How much of a frame is held after a round that began with so many bytes of it. -/
def milestone (wire : List UInt8) (size : Nat) : Nat :=
  if size < Frame.headerSize then Frame.headerSize else wire.length

/-- The first so many bytes of a frame. -/
def part (max : Nat) (wire : List UInt8) (size : Nat) : Accumulator := ⟨max, packed (wire.take size)⟩

theorem size_part (hs : size ≤ wire.length) : (part max wire size).size = size := by
  simp [part, Accumulator.size, hs]

theorem declared_part (hw : wire = Frame.onWire (octets payload)) (hmax : payload.size ≤ max)
    (hd : payload.size ≤ Frame.maxDeclared) (hle : Frame.headerSize ≤ size)
    (hs : size ≤ wire.length) : (part max wire size).declared = .ok (some payload.size) := by
  have hlong : ¬ (wire.take size).length < Frame.headerSize := by
    rw [List.length_take]
    omega
  have hhead : ofBigEndian ((wire.take size).take Frame.headerSize) = payload.size := by
    have htake := Frame.take_onWire_append (octets payload) []
    rw [List.append_nil, ← hw] at htake
    rw [List.take_take, Nat.min_eq_left hle, htake]
    exact Frame.ofBigEndian_header hd
  rw [declared_eq, part, octets_packed, if_neg hlong]
  dsimp only
  rw [hhead, if_neg (Nat.not_lt.mpr hmax)]

theorem needed_part (hw : wire = Frame.onWire (octets payload)) (hmax : payload.size ≤ max)
    (hd : payload.size ≤ Frame.maxDeclared) (hs : size ≤ wire.length) :
    (part max wire size).needed = .ok (milestone wire size - size) := by
  have hsize : (part max wire size).buffer.size = size := size_part hs
  have hlength : wire.length = Frame.headerSize + payload.size := by
    rw [hw, Frame.length_onWire, length_octets]
  unfold needed milestone
  split_ifs with hlt
  · rw [declared_of_size_lt _ (by rwa [size_part hs])]
    dsimp only
    rw [hsize]
  · rw [declared_part hw hmax hd (Nat.le_of_not_lt hlt) hs]
    dsimp only
    rw [hsize, hlength]

/-- Each round comes to the next milestone of the frame. -/
theorem topUp_part (hw : wire = Frame.onWire (octets payload)) (hmax : payload.size ≤ max)
    (hd : payload.size ≤ Frame.maxDeclared) (rounds : Nat) (later : List UInt8)
    (hs : size ≤ wire.length) : topUp rounds (part max wire size) (wire.drop size ++ later) =
      (part max wire ((milestone wire)^[rounds] size),
        wire.drop ((milestone wire)^[rounds] size) ++ later) := by
  have hlength : wire.length = Frame.headerSize + payload.size := by
    rw [hw, Frame.length_onWire, length_octets]
  induction rounds generalizing size with
  | zero => rfl
  | succ rounds ih =>
    have hnext : size ≤ milestone wire size ∧ milestone wire size ≤ wire.length := by
      unfold milestone
      split <;> omega
    have hin : milestone wire size - size ≤ (wire.drop size).length := by
      rw [List.length_drop]
      omega
    have htake : (wire.drop size ++ later).take (milestone wire size - size) =
        (wire.drop size).take (milestone wire size - size) := List.take_append_of_le_length hin
    have hdrop : (wire.drop size ++ later).drop (milestone wire size - size) =
        wire.drop (milestone wire size) ++ later := by
      rw [List.drop_append_of_le_length hin, List.drop_drop, Nat.add_sub_of_le hnext.1]
    have hfit : (part max wire size).size +
        (packed ((wire.drop size).take (milestone wire size - size))).size ≤
          (part max wire size).limit := by
      rw [size_part hs, size_packed, List.length_take, Nat.min_eq_left hin]
      change _ ≤ max + Frame.headerSize
      omega
    have hextend : ((part max wire size).extend
        (packed ((wire.drop size).take (milestone wire size - size)))).2 =
          part max wire (milestone wire size) := by
      rw [extend_eq_ok _ hfit]
      refine Accumulator.ext rfl (octets_inj.mp ?_)
      simp only [part, octets_append, octets_packed]
      rw [← List.take_add, Nat.add_sub_of_le hnext.1]
    rw [topUp, needed_part hw hmax hd hs]
    dsimp only
    rw [htake, hdrop, hextend, ih hnext.2, Function.iterate_succ_apply]

/-- After two rounds the end of the frame is reached, and nothing goes beyond it. -/
theorem iterate_milestone (h : Frame.headerSize ≤ wire.length) :
    (milestone wire)^[rounds + 2] size = wire.length := by
  have hlong : ∀ {k}, Frame.headerSize ≤ k → milestone wire k = wire.length :=
    fun hk => if_neg (Nat.not_lt.mpr hk)
  induction rounds with
  | zero =>
    change milestone wire (milestone wire size) = wire.length
    refine hlong ?_
    unfold milestone
    split <;> omega
  | succ rounds ih => rw [Function.iterate_succ_apply', ih, hlong h]

theorem eq_part {a : Accumulator} (h : octets a.buffer <+: wire) :
    a = part a.maxFrame wire a.size := by
  refine Accumulator.ext rfl (octets_inj.mp ?_)
  rw [part, octets_packed]
  exact List.prefix_iff_eq_take.mp h

theorem pop_part (hw : wire = Frame.onWire (octets payload)) (hmax : payload.size ≤ max)
    (hd : payload.size ≤ Frame.maxDeclared) :
    (part max wire wire.length).pop = (.ok (some payload), empty max) := by
  have hlength : wire.length = Frame.headerSize + payload.size := by
    rw [hw, Frame.length_onWire, length_octets]
  have hheader : Frame.headerSize ≤ wire.length := hlength ▸ Nat.le_add_right _ _
  obtain ⟨frame, hpop, hframe⟩ := pop_of_exact _
    (declared_part hw hmax hd hheader (Nat.le_refl _)) ((size_part (Nat.le_refl _)).trans hlength)
  have hcontent := Frame.drop_onWire_append (octets payload) []
  rw [List.append_nil, ← hw, List.append_nil] at hcontent
  rw [part, octets_packed, List.take_length, hcontent, octets_inj] at hframe
  rwa [hframe] at hpop

end Rounds

/-- What an accumulator says is needed. The number is unknown just if there is an error in the place
of the next frame, and the same one; it is zero just if there is a frame. Otherwise there is room
for as many bytes, any fewer leave no frame, and any that many complete the length or, if
that is complete, the frame, with nothing behind it. So an accumulator that holds part of a
frame has it after at most two rounds in each of which it takes in what is needed, and never
holds a byte of what follows on the stream. -/
theorem needed_exact (a : Accumulator) :
    (∀ e, a.needed = .error e ↔ a.pop.1 = .error e) ∧
    (a.needed = .ok 0 ↔ ∃ frame, a.pop.1 = .ok (some frame)) ∧
    (∀ n, 0 < n → a.needed = .ok n → n ≤ a.room ∧
      ∀ bytes : ByteArray, bytes.size ≤ n →
        (a.extend bytes).1 = .ok () ∧
        octets (a.extend bytes).2.buffer = octets a.buffer ++ octets bytes ∧
        (bytes.size < n → (a.extend bytes).2.pop = (.ok none, (a.extend bytes).2)) ∧
        (bytes.size = n → a.size < 4 → (a.extend bytes).2.size = 4) ∧
        (bytes.size = n → 4 ≤ a.size → ∃ frame,
          (a.extend bytes).2.pop = (.ok (some frame), empty a.maxFrame) ∧
            octets frame = (octets a.buffer ++ octets bytes).drop 4)) ∧
    ∀ payload frame later rounds, Frame.encode a.maxFrame payload = .ok frame →
      octets a.buffer <+: octets frame →
      let (b, left) := a.topUp rounds ((octets frame).drop a.size ++ later)
      octets b.buffer <+: octets frame ∧ octets b.buffer ++ left = octets frame ++ later ∧
        (2 ≤ rounds → b.needed = .ok 0 ∧ b.pop = (.ok (some payload), empty a.maxFrame) ∧
          left = later) := by
  refine ⟨fun e => a.needed_eq_error_iff, a.needed_eq_zero_iff, fun n hn h => ?_,
    fun payload frame later rounds hencode hpart => ?_⟩
  · have hlacks := a.lacks_of_needed h hn
    refine ⟨Nat.le_sub_of_add_le' hlacks.size_add_le, fun bytes hb => ?_⟩
    rw [hlacks.extend_eq hb]
    exact ⟨rfl, octets_append _ _, fun hlt => hlacks.pop_of_lt hlt,
      fun heq => (hlacks.of_eq heq).1, fun heq => (hlacks.of_eq heq).2⟩
  · obtain ⟨hmax, hd, hwire⟩ := Frame.encode_eq_ok_iff.mp hencode
    have hheader : Frame.headerSize ≤ (octets frame).length := by
      rw [hwire, Frame.length_onWire]
      exact Nat.le_add_right _ _
    have hrounds := topUp_part hwire hmax hd rounds later hpart.length_le
    rw [length_octets, ← size, ← eq_part hpart] at hrounds
    rw [hrounds]
    generalize hreached : (milestone (octets frame))^[rounds] a.size = reached
    refine ⟨?_, ?_, fun htwo => ?_⟩
    · rw [part, octets_packed]
      exact List.take_prefix _ _
    · rw [part, octets_packed, ← List.append_assoc, List.take_append_drop]
    · obtain ⟨more, rfl⟩ := Nat.exists_eq_add_of_le' htwo
      rw [iterate_milestone hheader] at hreached
      subst hreached
      have hpop := pop_part hwire hmax hd
      refine ⟨(needed_eq_zero_iff _).mpr ⟨payload, by rw [hpop]⟩, hpop, ?_⟩
      rw [List.drop_length, List.nil_append]

/-- Two bytes of a length are lacking, and then three of the content. -/
theorem needed_exact_small :
    (⟨3, packed [0, 0]⟩ : Accumulator).needed = .ok 2 ∧
    2 ≤ (⟨3, packed [0, 0]⟩ : Accumulator).room ∧
    ((⟨3, packed [0, 0]⟩ : Accumulator).extend (packed [0, 3])).2.size = 4 ∧
    (∃ frame, ((⟨3, packed [0, 0, 0, 3]⟩ : Accumulator).extend (packed [7, 8, 9])).2.pop =
      (.ok (some frame), empty 3) ∧ octets frame = [7, 8, 9]) ∧
    ((⟨3, packed [0, 0]⟩ : Accumulator).topUp 2 [0, 3, 7, 8, 9, 0, 0]).1.pop =
      (.ok (some (packed [7, 8, 9])), empty 3) := by
  have hfirst : (⟨3, packed [0, 0]⟩ : Accumulator).needed = .ok 2 := rfl
  have hsecond : (⟨3, packed [0, 0, 0, 3]⟩ : Accumulator).needed = .ok 3 := rfl
  have hframe : Frame.encode 3 (packed [7, 8, 9]) = .ok (packed [0, 0, 0, 3, 7, 8, 9]) := rfl
  obtain ⟨-, -, hlacks, hrounds⟩ := needed_exact ⟨3, packed [0, 0]⟩
  obtain ⟨hroom, hbytes⟩ := hlacks 2 (by decide) hfirst
  obtain ⟨-, -, -, hheader, -⟩ := hbytes (packed [0, 3]) (by decide)
  obtain ⟨-, -, hlacks', -⟩ := needed_exact ⟨3, packed [0, 0, 0, 3]⟩
  obtain ⟨-, -, -, -, hcontent⟩ := (hlacks' 3 (by decide) hsecond).2 (packed [7, 8, 9]) (by decide)
  have hlast := hrounds (packed [7, 8, 9]) _ [0, 0] 2 hframe (by decide)
  exact ⟨hfirst, hroom, hheader (by decide) (by decide), hcontent (by decide) (by decide),
    (hlast.2.2 (by decide)).2.1⟩

end Courier.Accumulator
