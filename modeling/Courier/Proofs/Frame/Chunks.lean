import Courier.Proofs.Frame.Collecting
import Mathlib.Data.List.Forall2

/-!
# A stream in chunks

A stream is given to an accumulator chunk by chunk, and after each chunk every
frame is taken out that is there. `Frame.split_append` says what a first piece of
a stream leaves for the pieces behind it: its tail. The accumulator holds a tail
of the same kind between two chunks, so the places at which the stream is cut
make no difference.
-/

namespace Courier

namespace Frame

variable {max : Nat} {x y bytes : List UInt8} {fs : List (List UInt8)} {t : Tail}

/-- The error that is reported for the end of a stream. -/
def Tail.error (max : Nat) : Tail → Option FrameError
  | .rest _ => none
  | .tooLarge declared => some (.frameTooLarge declared max)

theorem eq_of_split_eq_rest (h : split max x = ⟨[], .rest bytes⟩) : bytes = x := by
  unfold split at h
  split at h
  · cases h
    rfl
  · dsimp only at h
    split at h
    · cases h
    · split at h
      · cases h
        rfl
      · cases h

/-- More bytes behind a stream belong to its last frame, if they are read at all. -/
theorem split_append (x y : List UInt8) : split max (x ++ y) =
    match (split max x).tail with
    | .rest bytes => ⟨(split max x).frames ++ (split max (bytes ++ y)).frames,
        (split max (bytes ++ y)).tail⟩
    | .tooLarge declared => ⟨(split max x).frames, .tooLarge declared⟩ := by
  fun_induction split max x with
  | case1 x hshort => rfl
  | case2 x hlong declared hlarge =>
    have hhead : (x ++ y).take headerSize = x.take headerSize :=
      List.take_append_of_le_length (Nat.le_of_not_lt hlong)
    rw [split_of_lt_declared (by rw [List.length_append]; omega) (by rw [hhead]; exact hlarge),
      hhead]
  | case3 x hlong declared hfits hpart => rfl
  | case4 x hlong declared hfits hwhole later ih =>
    have hle : headerSize + declared ≤ x.length := Nat.le_of_not_lt hwhole
    have hcut := Accumulator.bytes_eq_onWire_append (l := x) rfl hle
    have hsize : ((x.drop headerSize).take declared).length = declared := by
      rw [List.length_take, List.length_drop]
      omega
    have hexpressible := Accumulator.declared_le_maxDeclared (Nat.le_of_not_lt hlong)
    have hall : split max (x ++ y) = ⟨(x.drop headerSize).take declared ::
        (split max (x.drop (headerSize + declared) ++ y)).frames,
          (split max (x.drop (headerSize + declared) ++ y)).tail⟩ := by
      conv => lhs; rw [hcut, List.append_assoc]
      exact split_onWire_append _ (hsize ▸ Nat.le_of_not_lt hfits) (hsize ▸ hexpressible)
    rw [hall, ih]
    dsimp only [later]
    cases (split max (x.drop (headerSize + declared))).tail <;> rfl

theorem split_append_of_tail (hx : split max x = ⟨fs, t⟩) (hb : split max bytes = ⟨[], t⟩) :
    split max (x ++ y) =
      ⟨fs ++ (split max (bytes ++ y)).frames, (split max (bytes ++ y)).tail⟩ := by
  rw [split_append x y, hx]
  cases t with
  | rest left =>
    cases eq_of_split_eq_rest hb
    rfl
  | tooLarge declared =>
    rw [split_append bytes y, hb]
    simp

theorem error_or_split_append (max : Nat) (x y : List UInt8) :
    ((split max x).tail.error max).or ((split max (x ++ y)).tail.error max) =
      (split max (x ++ y)).tail.error max := by
  rw [split_append x y]
  cases (split max x).tail with
  | rest bytes => rfl
  | tooLarge declared => rfl

end Frame

namespace Accumulator

variable (a : Accumulator) {max : Nat}

attribute [ext] Accumulator

/-- What has been taken out, the first error, and what is held in the end. -/
@[ext]
structure Yield where
  frames : List ByteArray
  error : Option FrameError
  left : Accumulator

theorem size_lt_of_pop {frame : ByteArray} {rest : Accumulator}
    (h : a.pop = (.ok (some frame), rest)) : rest.size < a.size := by
  have hp := a.popped
  rw [h] at hp
  cases hp with
  | frame _ rest _ _ hbytes =>
    have hlen := congrArg List.length hbytes
    simp only [length_octets, List.length_append, Frame.length_onWire, Frame.headerSize] at hlen
    simp only [size]
    omega

/-- Takes frames out until there is none. -/
def popAll (a : Accumulator) : Yield :=
  match _h : a.pop with
  | (.error e, rest) => ⟨[], some e, rest⟩
  | (.ok none, rest) => ⟨[], none, rest⟩
  | (.ok (some frame), rest) =>
    let later := popAll rest
    ⟨frame :: later.frames, later.error, later.left⟩
termination_by a.size
decreasing_by exact a.size_lt_of_pop _h

/-- Takes in a chunk with `feed`, and then frames out until there is none. -/
def feedAll (chunk : ByteArray) : Yield :=
  match a.feed chunk with
  | (.error e, rest) => ⟨[], some e, rest⟩
  | (.ok none, rest) => ⟨[], none, rest⟩
  | (.ok (some frame), rest) =>
    let later := rest.popAll
    ⟨frame :: later.frames, later.error, later.left⟩

/-- Takes in chunk after chunk. -/
def takeIn (a : Accumulator) : List ByteArray → Yield
  | [] => ⟨[], none, a⟩
  | chunk :: chunks =>
    let first := a.feedAll chunk
    let later := first.left.takeIn chunks
    ⟨first.frames ++ later.frames, first.error.or later.error, later.left⟩

/-- Each chunk fits beside what is held when its turn comes. -/
def Fits (a : Accumulator) : List ByteArray → Prop
  | [] => True
  | chunk :: chunks => chunk.size ≤ a.room ∧ (a.feedAll chunk).left.Fits chunks

theorem feedAll_eq {chunk : ByteArray} (h : a.size + chunk.size ≤ a.limit) :
    a.feedAll chunk = { a with buffer := a.buffer ++ chunk }.popAll := by
  unfold feedAll feed
  rw [a.extend_eq_ok h, popAll]
  dsimp only
  split <;> rename_i hpop <;> rw [hpop]

/-- What is taken out are the frames that the splitter finds, and what is held in the
end leaves what it leaves. -/
theorem popAll_spec : ∃ t,
    Frame.split a.maxFrame (octets a.buffer) = ⟨a.popAll.frames.map octets, t⟩ ∧
      Frame.split a.maxFrame (octets a.popAll.left.buffer) = ⟨[], t⟩ ∧
      a.popAll.error = t.error a.maxFrame ∧ a.popAll.left.maxFrame = a.maxFrame ∧
      a.popAll.left.size ≤ a.size := by
  fun_induction popAll a with
  | case1 a e rest hpop =>
    have hp := a.popped
    rw [hpop] at hp
    cases hp with
    | tooLarge n hsplit => exact ⟨_, hsplit, hsplit, rfl, rfl, Nat.le_refl _⟩
  | case2 a rest hpop =>
    have hp := a.popped
    rw [hpop] at hp
    cases hp with
    | waiting hsplit => exact ⟨_, hsplit, hsplit, rfl, rfl, Nat.le_refl _⟩
  | case3 a frame rest hpop later ih =>
    have hfewer := a.size_lt_of_pop hpop
    have hp := a.popped
    rw [hpop] at hp
    cases hp with
    | frame content rest hm hd hbytes =>
      obtain ⟨t, hfirst, hlast, herror, hmax, hsize⟩ := ih
      refine ⟨t, ?_, hlast, herror, hmax, Nat.le_trans hsize (Nat.le_of_lt hfewer)⟩
      rw [hbytes, Frame.split_onWire_append _ (by simpa using hm) (by simpa using hd), hfirst]
      rfl

/-- An accumulator that no frame can be taken out of takes chunks in as the splitter
reads them behind what is held. -/
theorem takeIn_spec {chunks : List ByteArray} {t : Frame.Tail} (hbound : a.size ≤ a.limit)
    (hfit : a.Fits chunks) (h : Frame.split a.maxFrame (octets a.buffer) = ⟨[], t⟩) : ∃ t',
    Frame.split a.maxFrame (octets a.buffer ++ chunks.flatMap octets) =
        ⟨(a.takeIn chunks).frames.map octets, t'⟩ ∧
      Frame.split a.maxFrame (octets (a.takeIn chunks).left.buffer) = ⟨[], t'⟩ ∧
      (t.error a.maxFrame).or (a.takeIn chunks).error = t'.error a.maxFrame ∧
      (a.takeIn chunks).left.maxFrame = a.maxFrame := by
  induction chunks generalizing a t with
  | nil =>
    refine ⟨t, ?_, h, Option.or_none, rfl⟩
    rw [List.flatMap_nil, List.append_nil]
    exact h
  | cons chunk chunks ih =>
    obtain ⟨hroom, hrest⟩ := hfit
    have hle : a.size + chunk.size ≤ a.limit := by
      unfold room at hroom
      omega
    obtain ⟨t₁, hsplit, hleft, herror, hmax, hsize⟩ :=
      popAll_spec { a with buffer := a.buffer ++ chunk }
    rw [← a.feedAll_eq hle] at hsplit hleft herror hmax hsize
    dsimp only at hsplit hleft herror hmax
    have hbound' : (a.feedAll chunk).left.size ≤ (a.feedAll chunk).left.limit := by
      simp only [size, limit, ByteArray.size_append] at hsize hle ⊢
      omega
    rw [← hmax] at hleft
    obtain ⟨t₂, hsplit₂, hleft₂, herror₂, hmax₂⟩ := ih _ hbound' hrest hleft
    rw [hmax] at hsplit₂ hleft₂ herror₂ hmax₂ hleft
    refine ⟨t₂, ?_, hleft₂, ?_, hmax₂⟩
    · rw [List.flatMap_cons, ← List.append_assoc, ← octets_append,
        Frame.split_append_of_tail hsplit hleft, hsplit₂]
      simp [takeIn]
    · have hfirst := Frame.error_or_split_append a.maxFrame (octets a.buffer) (octets chunk)
      rw [← octets_append, hsplit, h] at hfirst
      simp only [takeIn]
      rw [herror, ← Option.or_assoc, hfirst]
      exact herror₂

section Fresh

variable {chunks chunks' : List ByteArray}

theorem takeIn_empty (h : (empty max).Fits chunks) :
    ((empty max).takeIn chunks).frames.map octets =
        (Frame.split max (chunks.flatMap octets)).frames ∧
      ((empty max).takeIn chunks).error =
        (Frame.split max (chunks.flatMap octets)).tail.error max ∧
      Frame.split max (octets ((empty max).takeIn chunks).left.buffer) =
        ⟨[], (Frame.split max (chunks.flatMap octets)).tail⟩ ∧
      ((empty max).takeIn chunks).left.maxFrame = max := by
  have hnil : Frame.split max [] = ⟨[], .rest []⟩ := Frame.split_of_length_lt (by decide)
  obtain ⟨t, hsplit, hleft, herror, hmax⟩ := (empty max).takeIn_spec (Nat.zero_le _) h hnil
  rw [show (empty max).maxFrame = max from rfl] at hsplit hleft herror hmax
  rw [show octets (empty max).buffer = [] from rfl, List.nil_append] at hsplit
  rw [hsplit]
  exact ⟨rfl, herror, hleft, hmax⟩

theorem takeIn_left (h : (empty max).Fits chunks) (he : ((empty max).takeIn chunks).error = none) :
    (Frame.split max (chunks.flatMap octets)).tail =
      .rest (octets ((empty max).takeIn chunks).left.buffer) := by
  obtain ⟨-, herror, hleft, -⟩ := takeIn_empty h
  rw [he] at herror
  generalize (Frame.split max (chunks.flatMap octets)).tail = t at herror hleft
  cases t with
  | rest bytes => rw [Frame.eq_of_split_eq_rest hleft]
  | tooLarge declared => cases herror

theorem takeIn_congr (h : (empty max).Fits chunks) (h' : (empty max).Fits chunks')
    (heq : chunks.flatMap octets = chunks'.flatMap octets) :
    ((empty max).takeIn chunks).frames = ((empty max).takeIn chunks').frames ∧
      ((empty max).takeIn chunks).error = ((empty max).takeIn chunks').error ∧
      (((empty max).takeIn chunks).error = none →
        ((empty max).takeIn chunks).left = ((empty max).takeIn chunks').left) := by
  obtain ⟨hframes, herror, -, hmax⟩ := takeIn_empty h
  obtain ⟨hframes', herror', -, hmax'⟩ := takeIn_empty h'
  rw [← heq] at hframes' herror'
  have hsame := herror.trans herror'.symm
  refine ⟨?_, hsame, fun he => ?_⟩
  · exact map_octets_inj.mp (hframes.trans hframes'.symm)
  · have hleft := takeIn_left h he
    rw [heq, takeIn_left h' (hsame ▸ he), Frame.Tail.rest.injEq, octets_inj] at hleft
    exact Accumulator.ext (hmax.trans hmax'.symm) hleft.symm

theorem split_encodings {payloads frames : List ByteArray}
    (h : List.Forall₂ (fun p f => Frame.encode max p = .ok f) payloads frames) :
    Frame.split max (frames.flatMap octets) = ⟨payloads.map octets, .rest []⟩ := by
  induction h with
  | nil => exact Frame.split_of_length_lt (by decide)
  | cons hencode _ ih =>
    obtain ⟨hm, hd, hwire⟩ := Frame.encode_eq_ok_iff.mp hencode
    rw [List.flatMap_cons, hwire,
      Frame.split_onWire_append _ (by simpa using hm) (by simpa using hd), ih]
    rfl

theorem takeIn_encodings {payloads frames : List ByteArray}
    (h : List.Forall₂ (fun p f => Frame.encode max p = .ok f) payloads frames)
    (hfit : (empty max).Fits chunks) (hbytes : chunks.flatMap octets = frames.flatMap octets) :
    (empty max).takeIn chunks = ⟨payloads, none, empty max⟩ := by
  have hsplit := split_encodings h
  rw [← hbytes] at hsplit
  obtain ⟨hframes, herror, hleft, hmax⟩ := takeIn_empty hfit
  rw [hsplit] at hframes herror hleft
  have hbuffer : ((empty max).takeIn chunks).left.buffer = (empty max).buffer :=
    octets_inj.mp (Frame.eq_of_split_eq_rest hleft).symm
  exact Yield.ext (map_octets_inj.mp hframes) herror
    (Accumulator.ext hmax hbuffer)

end Fresh

/-- However a stream is cut into chunks that fit, a new accumulator hands on the frames
of the stream in one piece, reports the size at which it ends, and is otherwise left
with the bytes that no frame was made of. In particular what was encoded comes out
again, and every payload can be encoded that is within the maximum and whose size a
length can express. -/
theorem takeIn_refines_split (max : Nat) :
    (∀ chunks, (empty max).Fits chunks →
      let yield := (empty max).takeIn chunks
      let whole := Frame.split max (chunks.flatMap octets)
      yield.frames.map octets = whole.frames ∧ yield.error = whole.tail.error max ∧
        (yield.error = none → whole.tail = .rest (octets yield.left.buffer))) ∧
    (∀ chunks chunks', (empty max).Fits chunks → (empty max).Fits chunks' →
      chunks.flatMap octets = chunks'.flatMap octets →
        let yield := (empty max).takeIn chunks
        let yield' := (empty max).takeIn chunks'
        yield.frames = yield'.frames ∧ yield.error = yield'.error ∧
          (yield.error = none → yield.left = yield'.left)) ∧
    (∀ payloads : List ByteArray,
      (∀ p ∈ payloads, p.size ≤ max ∧ p.size ≤ Frame.maxDeclared) →
        ∃ frames, List.Forall₂ (fun p f => Frame.encode max p = .ok f) payloads frames) ∧
    ∀ payloads frames, List.Forall₂ (fun p f => Frame.encode max p = .ok f) payloads frames →
      ∀ chunks, (empty max).Fits chunks → chunks.flatMap octets = frames.flatMap octets →
        (empty max).takeIn chunks = ⟨payloads, none, empty max⟩ := by
  refine ⟨fun chunks hfit => ?_, fun _ _ => takeIn_congr, fun payloads hsizes => ?_,
    fun _ _ hencode _ hfit hbytes => takeIn_encodings hencode hfit hbytes⟩
  · obtain ⟨hframes, herror, -, -⟩ := takeIn_empty hfit
    exact ⟨hframes, herror, takeIn_left hfit⟩
  · induction payloads with
    | nil => exact ⟨[], .nil⟩
    | cons p payloads ih =>
      obtain ⟨frames, hframes⟩ := ih fun p hp => hsizes p (List.mem_cons_of_mem _ hp)
      obtain ⟨hm, hd⟩ := hsizes p List.mem_cons_self
      exact ⟨_, .cons (Frame.encode_eq_ok hm hd) hframes⟩

/-- A frame that is cut inside its length and inside its content, an empty one, and a
length that is too large. -/
def frayed : List ByteArray :=
  [packed [0, 0], packed [], packed [0, 2, 7], packed [8, 0], packed [0, 0, 0, 0, 0],
    packed [0, 9]]

/-- The same bytes one by one, up to the length that is too large. -/
def crumbled : List ByteArray :=
  [0, 0, 0, 2, 7, 8, 0, 0, 0, 0, 0, 0, 0, 9].map fun b => packed [b]

theorem takeIn_refines_split_frayed :
    (empty 3).Fits frayed ∧ (empty 3).Fits crumbled ∧
      ((empty 3).takeIn frayed).frames.map octets = [[7, 8], []] ∧
      ((empty 3).takeIn frayed).error = some (.frameTooLarge 9 3) ∧
      ((empty 3).takeIn crumbled).error = ((empty 3).takeIn frayed).error ∧
      (∃ frames, List.Forall₂ (fun p f => Frame.encode 3 p = .ok f)
        [packed [7, 8], packed []] frames) ∧
      (empty 3).takeIn (frayed.take 4 ++ [packed [0, 0, 0]]) =
        ⟨[packed [7, 8], packed []], none, empty 3⟩ := by
  have hfit : (empty 3).Fits frayed := by
    refine ⟨?_, ?_, ?_, ?_, ?_, ?_, trivial⟩ <;> decide +kernel
  have hfit' : (empty 3).Fits crumbled := by
    refine ⟨?_, ?_, ?_, ?_, ?_, ?_, ?_, ?_, ?_, ?_, ?_, ?_, ?_, ?_, trivial⟩ <;> decide +kernel
  have hfit'' : (empty 3).Fits (frayed.take 4 ++ [packed [0, 0, 0]]) := by
    refine ⟨?_, ?_, ?_, ?_, ?_, trivial⟩ <;> decide +kernel
  obtain ⟨hsplit, hcut, hencodable, hencode⟩ := takeIn_refines_split 3
  obtain ⟨hframes, herror, -⟩ := hsplit frayed hfit
  obtain ⟨-, hsame, -⟩ := hcut crumbled frayed hfit' hfit (by cbv)
  have hwhole : Frame.split 3 (frayed.flatMap octets) = ⟨[[7, 8], []], .tooLarge 9⟩ := by cbv
  have hpayloads : List.Forall₂ (fun p f => Frame.encode 3 p = .ok f)
      [packed [7, 8], packed []] [packed [0, 0, 0, 2, 7, 8], packed [0, 0, 0, 0]] :=
    .cons (by cbv) (.cons (by cbv) .nil)
  rw [hwhole] at hframes herror
  exact ⟨hfit, hfit', hframes, herror, hsame, hencodable _ (by decide),
    hencode _ _ hpayloads _ hfit'' (by cbv)⟩

end Accumulator
end Courier
