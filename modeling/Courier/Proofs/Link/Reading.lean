import Courier.Proofs.Link.Arrivals
import Courier.Proofs.Link.Alignment

/-!
# Reading agrees with the reference splitter

However a stream is cut into reads and however many calls are made, the frames
that a link has handed on and the bytes that it holds are together what it has
received. So the splitter, which sees all that was received in one piece, finds
first the frames that have been handed on and then what is in the bytes held,
and each further call does the next thing that the splitter does.
-/

namespace Courier.Link

variable {l₀ l l' : Link} {net₀ net net' : Network} {e : Event} {tr : List Event} {s : Nat}

/-- The frame that a call hands on. -/
def handed : Call (Except Failure (Option ByteArray)) → Option ByteArray
  | .returned (.ok frame) => frame
  | _ => none

theorem Idle.handed_eq {o : Call (Except Failure (Option ByteArray))} (h : Idle o) :
    handed o = none := by
  cases h <;> rfl

/-- The frame that the event has handed on from a stream. -/
def Event.frame? (s : Nat) : Event → Option ByteArray
  | reads stream o => if stream = some s then handed o else none
  | _ => none

theorem Event.frame?_eq_none (h : e.on ≠ some s) : e.frame? s = none := by
  unfold frame?
  split
  · exact if_neg h
  · rfl

theorem Event.Barred.frame?_eq_none {stream : Option Nat} (h : e.Barred stream) :
    e.frame? s = none := by
  cases h with
  | write => rfl
  | read => simp [frame?, handed]

/-- The frames that a link has handed on from a stream, in order. -/
def framesOn (s : Nat) (tr : List Event) : List ByteArray := tr.filterMap (·.frame? s)

@[simp] theorem framesOn_nil : framesOn s [] = [] := rfl

theorem framesOn_append (es : List Event) :
    framesOn s (tr ++ es) = framesOn s tr ++ framesOn s es :=
  List.filterMap_append

theorem framesOn_eq_nil (h : ∀ e ∈ tr, e.on ≠ some s) : framesOn s tr = [] :=
  List.filterMap_eq_nil_iff.mpr fun e he => Event.frame?_eq_none (h e he)

theorem framesOn_concat : framesOn s (tr ++ [e]) = framesOn s tr ++ (e.frame? s).toList := by
  rw [framesOn_append]
  cases h : e.frame? s <;> simp [framesOn, h]

theorem framesOn_concat_none (h : e.frame? s = none) : framesOn s (tr ++ [e]) = framesOn s tr := by
  rw [framesOn_concat, h, Option.toList_none, List.append_nil]

namespace Gathered

variable {max : Nat} {bytes left : List UInt8} {o : Call (Except Failure (Option ByteArray))}

theorem bytes_eq (h : Gathered max bytes o left) :
    bytes = ((handed o).toList.map octets).flatMap Frame.onWire ++ left := by
  cases h with
  | frame hm hd h => simpa [handed] using h
  | tooLarge n h => simp [handed]
  | idle hi h => simp [hi.handed_eq]

theorem sizes (h : Gathered max bytes o left) :
    ∀ f ∈ (handed o).toList, f.size ≤ max ∧ f.size ≤ Frame.maxDeclared := by
  cases h with
  | frame hm hd h => simpa [handed] using ⟨hm, hd⟩
  | tooLarge n h => simp [handed]
  | idle hi h => simp [hi.handed_eq]

end Gathered

/-! ## The invariant of one stream -/

/-- What a link has received on a stream: the frames that it has handed on, and
behind them, while it has the stream, the bytes that it holds. -/
structure Receiving (s : Nat) (tr : List Event) (l : Link) (net : Network) : Prop where
  fresh : l.Fresh net s → (net.pipe s l.role.incoming).taken = 0
  within : (net.pipe s l.role.incoming).taken ≤ (net.pipe s l.role.incoming).written.size
  sizes : ∀ f ∈ framesOn s tr, f.size ≤ l.maxFrame ∧ f.size ≤ Frame.maxDeclared
  received : ∃ left, octets (net.pipe s l.role.incoming).received =
    ((framesOn s tr).map octets).flatMap Frame.onWire ++ left ∧
      (l.phase = .connected s → left = octets l.accumulator.buffer)

namespace Receiving

theorem received_of_taken {p : Pipe} (h : p.taken = 0) : octets p.received = [] := by
  rw [p.octets_received, h, List.take_zero]

theorem new (h : New l net) : Receiving s [] l net where
  fresh _ := h.untouched.taken s
  within := by
    rw [h.untouched.taken s]
    exact Nat.zero_le _
  sizes := by simp
  received := ⟨[], by simp [received_of_taken (h.untouched.taken s)], fun _ => by simp [h.buffer]⟩

theorem received_eq (h : Receiving s tr l net) (hp : l.phase = .connected s) :
    octets (net.pipe s l.role.incoming).received =
      ((framesOn s tr).map octets).flatMap Frame.onWire ++ octets l.accumulator.buffer := by
  obtain ⟨left, hleft, hbuf⟩ := h.received
  rw [hleft, hbuf hp]

theorem of_off (h : Receiving s tr l net) (hc : Change l net e l' net') (he : e.on ≠ some s) :
    Receiving s (tr ++ [e]) l' net' := by
  have hframes : framesOn s (tr ++ [e]) = framesOn s tr :=
    framesOn_concat_none (Event.frame?_eq_none he)
  obtain ⟨left, hleft, hbuf⟩ := h.received
  refine ⟨?_, ?_, ?_, left, ?_, ?_⟩
  · intro hf
    rw [hc.role, hc.pipe_eq he]
    exact h.fresh (hc.fresh hf)
  · rw [hc.role, hc.pipe_eq he]
    exact h.within
  · rw [hframes, hc.maxFrame]
    exact h.sizes
  · rw [hframes, hc.role, hc.pipe_eq he]
    exact hleft
  · intro hp
    rcases hc.connected_of_off he hp with ⟨hp, -, ha⟩ | ⟨hf, -, ha⟩
    · rw [ha]
      exact hbuf hp
    · rw [received_of_taken (h.fresh hf)] at hleft
      rw [ha, (List.append_eq_nil_iff.mp hleft.symm).2]
      rfl

theorem of_on (h : Receiving s tr l net) (hcoh : Coherent l net) (hc : Change l net e l' net')
    (he : e.on = some s) : Receiving s (tr ++ [e]) l' net' := by
  obtain ⟨hp, ht⟩ := hc.transfer he
  have hfresh : ¬ l'.Fresh net' s := fun hf => hcoh.not_fresh hp (hc.fresh hf)
  have hsame : e.frame? s = none → framesOn s (tr ++ [e]) = framesOn s tr := framesOn_concat_none
  obtain ⟨left, hleft, hbuf⟩ := h.received
  cases ht with
  | refused _ hbar =>
    have hframes := hsame hbar.frame?_eq_none
    refine ⟨h.fresh, h.within, ?_, left, ?_, hbuf⟩ <;> rw [hframes]
    · exact h.sizes
    · exact hleft
  | writes frame put o b hw hb ht =>
    have hframes := hsame rfl
    have hpipe := ht.other s l.role.incoming (by simp [l.role.incoming_ne_outgoing])
    refine ⟨fun hf => absurd hf hfresh, ?_, ?_, left, ?_, hbuf⟩
    · rw [hpipe]
      exact h.within
    · rw [hframes]
      exact h.sizes
    · rw [hframes, hpipe]
      exact hleft
  | reads a got o hw ht hwritten htaken ha _ hgot hend =>
    have hwithin : (net'.pipe s l.role.incoming).taken ≤
        (net'.pipe s l.role.incoming).written.size := by
      rw [hwritten]
      exact htaken h.within
    have hframes : framesOn s (tr ++ [Event.reads (some s) o]) =
        framesOn s tr ++ (handed o).toList := by
      rw [framesOn_concat, Event.frame?, if_pos rfl]
    refine ⟨fun hf => absurd hf hfresh, hwithin, ?_, octets a.buffer, ?_, fun _ => rfl⟩
    · rw [hframes, show Link.maxFrame { l with accumulator := a } = l.maxFrame from ha]
      intro f hf
      rcases List.mem_append.mp hf with hf | hf
      · exact h.sizes f hf
      · exact hend.sizes f hf
    · rw [hgot, h.received_eq hp, List.append_assoc, hend.bytes_eq, hframes, List.map_append,
        List.flatMap_append, List.append_assoc]

theorem step (h : Receiving s tr l net) (hcoh : Coherent l net) (hc : Change l net e l' net') :
    Receiving s (tr ++ [e]) l' net' := by
  by_cases he : e.on = some s
  · exact h.of_on hcoh hc he
  · exact h.of_off hc he

theorem drift (h : Receiving s tr l net) (hd : net.Drift l.role net') :
    Receiving s tr l net' where
  fresh hf := by
    rw [hd.taken s]
    exact h.fresh (hf.of_drift hd)
  within := hd.taken_le h.within
  sizes := h.sizes
  received := by
    rw [hd.received h.within]
    exact h.received

/-- The splitter finds the frames handed on, and then those in the bytes held. -/
theorem split_received (h : Receiving s tr l net) (hp : l.phase = .connected s) :
    Frame.split l.maxFrame (octets (net.pipe s l.role.incoming).received) =
      ⟨(framesOn s tr).map octets ++
          (Frame.split l.maxFrame (octets l.accumulator.buffer)).frames,
        (Frame.split l.maxFrame (octets l.accumulator.buffer)).tail⟩ := by
  rw [h.received_eq hp, Frame.split_flatMap_onWire_append]
  intro c hc
  obtain ⟨f, hf, rfl⟩ := List.mem_map.mp hc
  exact h.sizes f hf

end Receiving

theorem Run.receiving (hn : New l₀ net₀) (h : Run l₀ net₀ tr l net) : Receiving s tr l net := by
  induction h with
  | nil => exact .new hn
  | call hr hs ih =>
    have hcoh := hr.coherent hn.coherent
    exact ih.step hcoh (hs.change hcoh)
  | drift _ hd ih => exact ih.drift hd

/-! ## The next call -/

/-- The next thing that the splitter does, after so many frames. -/
inductive Next (max : Nat) (done : List (List UInt8)) (split : Frame.Split) :
    Call (Except Failure (Option ByteArray)) → Prop
  | frame {content : ByteArray} (more : List (List UInt8))
      (h : split.frames = done ++ octets content :: more) :
      Next max done split (.returned (.ok (some content)))
  | tooLarge (n : Nat) (h : split = ⟨done, .tooLarge n⟩) :
      Next max done split (.returned (.error (.frame (.frameTooLarge n max))))
  | idle {o : Call (Except Failure (Option ByteArray))} (hi : Idle o) (rest : List UInt8)
      (h : split = ⟨done, .rest rest⟩) : Next max done split o

theorem Next.eq_tooLarge_iff {max n : Nat} {done : List (List UInt8)} {split : Frame.Split}
    {o : Call (Except Failure (Option ByteArray))} (h : Next max done split o) :
    o = .returned (.error (.frame (.frameTooLarge n max))) ↔ split = ⟨done, .tooLarge n⟩ := by
  cases h with
  | frame more h =>
    constructor
    · nofun
    · intro heq
      rw [heq] at h
      exact absurd h (by simp)
  | tooLarge m h => simp [h]
  | idle hi rest h =>
    constructor
    · rintro rfl
      cases hi
    · intro heq
      rw [h] at heq
      cases heq

/-- How a call for the next frame of a stream goes with the bytes of the stream,
those that it has received by its end and those that are on their way. -/
structure Refines (s : Nat) (tr : List Event) (l : Link) (net : Network)
    (o : Call (Except Failure (Option ByteArray))) (net' : Network) : Prop where
  next : Next l.maxFrame ((framesOn s tr).map octets)
    (Frame.split l.maxFrame (octets (net'.pipe s l.role.incoming).received)) o
  tooLarge : ∀ n, o = .returned (.error (.frame (.frameTooLarge n l.maxFrame))) ↔
    Frame.split l.maxFrame (octets (net'.pipe s l.role.incoming).received) =
      ⟨(framesOn s tr).map octets, .tooLarge n⟩
  /-- The end of the stream is reported when it has been received completely. -/
  closed : o = .returned (.error .connectionClosed) → (net.pipe s l.role.incoming).Orderly →
    (net'.pipe s l.role.incoming).received = (net'.pipe s l.role.incoming).written
  /-- A call does not give up while there are bytes. -/
  arrived : Idle o → ∀ later, (net.pipe s l.role.incoming).Arrived net.now later →
    (net'.pipe s l.role.incoming).received = (net'.pipe s l.role.incoming).written
  ended : Idle o → ∀ due later,
    (net.pipe s l.role.incoming).Arrived net.now (⟨due, .ended⟩ :: later) → due ≤ net.now →
    o = .returned (.error .connectionClosed)

theorem received_eq_written {p : Pipe} (h : p.written.size ≤ p.taken) : p.received = p.written := by
  rw [← octets_inj, p.octets_received]
  exact List.take_of_length_le (by simpa using h)

/-- What reading makes of the bytes held is what the splitter makes of the
stream behind the frames that have been handed on. -/
theorem Gathered.next {max : Nat} {frames : List ByteArray} {bytes left : List UInt8}
    {o : Call (Except Failure (Option ByteArray))} (h : Gathered max bytes o left)
    (hf : ∀ f ∈ frames, f.size ≤ max ∧ f.size ≤ Frame.maxDeclared) :
    Next max (frames.map octets)
      (Frame.split max ((frames.map octets).flatMap Frame.onWire ++ bytes)) o := by
  rw [Frame.split_flatMap_onWire_append]
  · cases h with
    | @frame content left hm hd h =>
      apply Next.frame (Frame.split max left).frames
      rw [h, Frame.split_onWire_append left (by simpa using hm) (by simpa using hd)]
    | tooLarge n h => exact .tooLarge n (by rw [h, List.append_nil])
    | idle hi h => exact .idle hi bytes (by rw [h, List.append_nil])
  · intro c hc
    obtain ⟨f, hmem, rfl⟩ := List.mem_map.mp hc
    exact hf f hmem

theorem Run.refines (hn : New l₀ net₀) (hr : Run l₀ net₀ tr l net)
    {o : Call (Except Failure (Option ByteArray))} (hp : l.phase = .connected s)
    (hb : ¬ Broken s tr) (h : l.readFrame net = (o, l', net')) : Refines s tr l net o net' := by
  have hrecv : Receiving s tr l net := hr.receiving hn
  have hsend : Sending s tr l net := hr.sending hn
  have hw : l.writing = false := by
    rw [← Bool.not_eq_true, hsend.broken hp]
    exact hb
  obtain ⟨a, hg, rfl⟩ := readFrame_connected hp hw h
  obtain ⟨-, hwritten, -, -, -, got, hgot, hend⟩ := gather_spec hg
  have hnext : Next l.maxFrame ((framesOn s tr).map octets)
      (Frame.split l.maxFrame (octets (net'.pipe s l.role.incoming).received)) o := by
    rw [hgot, hrecv.received_eq hp, List.append_assoc]
    exact hend.next hrecv.sizes
  refine ⟨hnext, fun n => hnext.eq_tooLarge_iff, ?_, ?_, ?_⟩
  · intro ho hord
    have hi : Idle o := ho ▸ .closed
    apply received_eq_written
    rw [hwritten]
    exact (reads_of_gather hg hi).taken_of_closed ho hord
  · intro hi later harr
    apply received_eq_written
    rw [hwritten]
    exact (reads_of_gather hg hi).taken harr
  · intro hi due later harr hdue
    exact (reads_of_gather hg hi).eq_closed harr hdue

/-- A network on which a frame arrives in two parts, the second after a while. -/
def halting : Network where
  pipe _ d :=
    match d with
    | .toServer => {}
    | .toClient =>
      { written := packed [0, 0, 0, 1, 7]
        arrivals := [⟨0, .upTo 2⟩, ⟨millis 600, .upTo 5⟩] }
  dials := [⟨0, .joined⟩]
  binding _ := .ok 9000
  lookup _ := .error "unknown name"

theorem start_halting : Start nearbyLink (connect nearby halting).2 := by
  have hu : Network.Untouched .client halting := ⟨fun _ => rfl, fun _ => rfl⟩
  have h : connect nearby halting = (.returned (.ok nearbyLink), (connect nearby halting).2) := rfl
  exact .connect hu h

/-- The link that has read the first part. -/
def halfway : Link := { nearbyLink with accumulator := ⟨Frame.maxSize, packed [0, 0]⟩ }

def haltingLater : Network := (nearbyLink.readFrame (connect nearby halting).2).2.2

theorem run_halting : Run nearbyLink (connect nearby halting).2
    [.reads (some 0) (.returned (.ok none))] halfway haltingLater := by
  have ho : (nearbyLink.readFrame (connect nearby halting).2).1 = .returned (.ok none) := by
    decide +kernel
  have hl : (nearbyLink.readFrame (connect nearby halting).2).2.1 = halfway := by
    with_unfolding_all rfl
  have h : nearbyLink.readFrame (connect nearby halting).2 =
      (.returned (.ok none), halfway, haltingLater) := Prod.ext ho (Prod.ext hl rfl)
  exact Run.nil.call (.readFrame h)

/-- However the bytes of a stream arrive and whatever calls are made, the frames
handed on are the first that the reference splitter finds in what has been
received, and while no write on the stream has failed the next call does what
the splitter does next. -/
theorem readFrame_refines_split (hs : Start l₀ net₀) (hr : Run l₀ net₀ tr l net) :
    (∀ s, (framesOn s tr).map octets <+:
      (Frame.split l.maxFrame (octets (net.pipe s l.role.incoming).received)).frames) ∧
    ∀ s, l.phase = .connected s → ¬ Broken s tr →
      Frame.split l.maxFrame (octets (net.pipe s l.role.incoming).received) =
        ⟨(framesOn s tr).map octets ++
            (Frame.split l.maxFrame (octets l.accumulator.buffer)).frames,
          (Frame.split l.maxFrame (octets l.accumulator.buffer)).tail⟩ ∧
      ∀ o l' net', l.readFrame net = (o, l', net') → Refines s tr l net o net' := by
  have hn := hs.new
  constructor
  · intro s
    have hrecv : Receiving s tr l net := hr.receiving hn
    obtain ⟨left, hleft, -⟩ := hrecv.received
    rw [hleft, Frame.split_flatMap_onWire_append]
    · exact List.prefix_append _ _
    · intro c hc
      obtain ⟨f, hf, rfl⟩ := List.mem_map.mp hc
      exact hrecv.sizes f hf
  · intro s hp hb
    constructor
    · exact (hr.receiving hn).split_received hp
    · intro o l' net' h
      exact hr.refines hn hp hb h

/-- The next call hands the frame on. -/
theorem readFrame_refines_split_halting :
    ∃ o net, halfway.readFrame haltingLater = (o, nearbyLink, net) ∧
      o = .returned (.ok (some (packed [7]))) ∧
      Refines 0 [.reads (some 0) (.returned (.ok none))] halfway haltingLater o net := by
  have ho : (halfway.readFrame haltingLater).1 = .returned (.ok (some (packed [7]))) := by
    decide +kernel
  have hl : (halfway.readFrame haltingLater).2.1 = nearbyLink := by with_unfolding_all rfl
  have h : halfway.readFrame haltingLater =
      (.returned (.ok (some (packed [7]))), nearbyLink, (halfway.readFrame haltingLater).2.2) :=
    Prod.ext ho (Prod.ext hl rfl)
  have hnot : ¬ Broken 0 [.reads (some 0) (.returned (.ok none))] := by
    rintro ⟨e, he, hf⟩
    rw [List.mem_singleton.mp he] at hf
    cases hf
  obtain ⟨-, hall⟩ := readFrame_refines_split start_halting run_halting
  exact ⟨_, _, h, rfl, (hall 0 rfl hnot).2 _ _ _ h⟩

end Courier.Link
