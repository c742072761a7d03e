import Courier.Proofs.Frame.Chunks
import Courier.Proofs.Link.Arrivals
import Courier.Proofs.Link.Phases
import Courier.Proofs.Net.Deadlines

/-!
# How long a link waits

All the reads of one call share a deadline, however the bytes come, so reading is over
when it has come. Reading that ends without a frame has taken every byte that came
before the deadline, and a frame that is complete among these bytes is handed on.
-/

namespace Courier

namespace Frame

variable {max : Nat} {x y : List UInt8}

theorem split_frames_mono (max : Nat) (h : x <+: y) :
    (split max x).frames <+: (split max y).frames := by
  obtain ⟨z, rfl⟩ := h
  rw [split_append x z]
  split
  · exact List.prefix_append _ _
  · exact List.prefix_refl _

theorem split_of_prefix {bytes : List UInt8} (h : split max y = ⟨[], .rest bytes⟩)
    (hxy : x <+: y) : split max x = ⟨[], .rest x⟩ := by
  have hframes := split_frames_mono max hxy
  obtain ⟨z, rfl⟩ := hxy
  rw [split_append x z] at h
  generalize hx : split max x = s at h hframes
  obtain ⟨frames, left | declared⟩ := s
  · obtain ⟨hnil, -⟩ := List.append_eq_nil_iff.mp (congrArg Split.frames h)
    have hnil : frames = [] := hnil
    subst hnil
    rw [eq_of_split_eq_rest hx]
  · cases h

end Frame

namespace Link

variable {stream deadline : Nat} {d : Direction} {net net' after : Network} {a a' : Accumulator}
  {l l' : Link} {o : Call (Except Failure (Option ByteArray))}

theorem gather_within (h : gather stream d deadline a net = (o, a', after)) :
    Network.Within deadline net after ∧ (o = .abandoned → net.patience ≠ none) := by
  fun_induction gather stream d deadline a net with
  | case1 a net e a₁ hpop =>
    cases h
    exact ⟨.refl _ _, by simp⟩
  | case2 a net frame a₁ hpop =>
    cases h
    exact ⟨.refl _ _, by simp⟩
  | case3 a net a₁ hpop mid hread =>
    cases h
    exact ⟨(Network.read_spec hread).1, by simp⟩
  | case4 a net a₁ hpop mid hread =>
    cases h
    obtain ⟨hwithin, -, habandoned⟩ := Network.read_spec hread
    exact ⟨hwithin, fun _ => habandoned rfl⟩
  | case5 a net a₁ hpop mid hread =>
    cases h
    exact ⟨(Network.read_spec hread).1, by simp⟩
  | case6 a net a₁ hpop e mid hread htrans ih =>
    obtain ⟨hfirst, -⟩ := Network.read_spec hread
    obtain ⟨hrest, habandoned⟩ := ih h
    exact ⟨hfirst.trans hrest, fun ho => hfirst.patience ▸ habandoned ho⟩
  | case7 a net a₁ hpop e mid hread htrans =>
    cases h
    exact ⟨(Network.read_spec hread).1, by simp⟩
  | case8 a net a₁ hpop b mid hread e a₂ hext =>
    cases h
    exact ⟨(Network.read_spec hread).1, by simp⟩
  | case9 a net a₁ hpop b mid hread a₂ hext ih =>
    obtain ⟨hfirst, -⟩ := Network.read_spec hread
    obtain ⟨hrest, habandoned⟩ := ih h
    exact ⟨hfirst.trans hrest, fun ho => hfirst.patience ▸ habandoned ho⟩

/-- Reads that end without a frame, and were not given up, have taken all the bytes
that came before the deadline. -/
theorem Reads.arrived (h : Reads stream d deadline net o after) (hi : Idle o)
    (ho : o ≠ .abandoned) :
    (net.pipe stream d).arrivedBefore deadline ≤ (after.pipe stream d).taken := by
  induction h with
  | @last want net after w o h he =>
    have hgrows := (read_grows h).2
    refine Nat.le_trans (Nat.le_of_eq ?_) hgrows
    cases he with
    | late =>
      obtain ⟨-, hlate, -⟩ := Network.read_spec h
      cases hread : (net.pipe stream d).read want with
      | none => exact Pipe.arrivedBefore_of_read_none hread
      | some x =>
        obtain ⟨due, i, q⟩ := x
        exact (Pipe.arrivedBefore_read hread).1 (Nat.le_of_lt (hlate rfl _ hread))
    | abandoned => exact absurd rfl ho
    | ended =>
      obtain ⟨due, hread⟩ := Network.read_came _ h
      exact (Pipe.arrivedBefore_read hread).2.1 rfl
    | failed e =>
      obtain ⟨due, hread⟩ := Network.read_came _ h
      cases hi with
      | failed _ hlasting => exact (Pipe.arrivedBefore_read hread).2.2.1 e rfl hlasting
  | @next want net mid after i o h hne hr ih =>
    obtain ⟨due, hread⟩ := Network.read_came _ h
    exact Nat.le_trans (Pipe.arrivedBefore_read hread).2.2.2 (ih hi ho)

/-- The bytes that are held and those that arrive before an instant. -/
def bytesBefore (stream : Nat) (d : Direction) (t : Nat) (a : Accumulator) (net : Network) :
    List UInt8 :=
  octets a.buffer ++ (net.pipe stream d).comingBefore t

/-- Reading without a frame, not given up: no frame was complete before the deadline. -/
theorem gather_of_idle (h : gather stream d deadline a net = (o, a', after)) (hi : Idle o)
    (ho : o ≠ .abandoned) :
    Frame.split a.maxFrame (bytesBefore stream d deadline a net) =
      ⟨[], .rest (bytesBefore stream d deadline a net)⟩ := by
  have hc := gather_spec h
  obtain ⟨got, hgot, hend⟩ := hc.got
  have hall := (reads_of_gather h hi).arrived hi ho
  have hprefix := (List.prefix_append_right_inj (octets a.buffer)).mpr
    (Pipe.comingBefore_prefix hc.written hgot hall)
  generalize octets a'.buffer = left at hend
  cases hend with
  | frame => cases hi
  | tooLarge => cases hi
  | idle _ hsplit => exact Frame.split_of_prefix hsplit hprefix

theorem Collects.comparable (hc : Collects stream d a net o a' after) {got : List UInt8}
    (hgot : octets (after.pipe stream d).received = octets (net.pipe stream d).received ++ got)
    (t : Nat) : bytesBefore stream d t a net <+: octets a.buffer ++ got ∨
      octets a.buffer ++ got <+: bytesBefore stream d t a net := by
  have hunread : (net.pipe stream d).unread = got ++ (after.pipe stream d).unread := by
    have hall := (after.pipe stream d).received_append_unread
    rw [hc.written, hgot, ← (net.pipe stream d).received_append_unread, List.append_assoc] at hall
    exact (List.append_cancel_left hall).symm
  have hgot : got <+: (net.pipe stream d).unread := hunread ▸ List.prefix_append _ _
  have hcoming : (net.pipe stream d).comingBefore t <+: (net.pipe stream d).unread :=
    List.take_prefix _ _
  unfold bytesBefore
  rw [List.prefix_append_right_inj, List.prefix_append_right_inj]
  exact List.prefix_or_prefix_of_prefix hcoming hgot

/-- The first frame that is complete before the deadline is what reading hands on. -/
theorem gather_of_complete {content : List UInt8} {more : List (List UInt8)}
    (h : gather stream d deadline a net = (o, a', after)) (ho : o ≠ .abandoned)
    (hf : (Frame.split a.maxFrame (bytesBefore stream d deadline a net)).frames = content :: more) :
    o = .returned (.ok (some (packed content))) := by
  have hc := gather_spec h
  obtain ⟨got, hgot, hend⟩ := hc.got
  have hcomparable := hc.comparable hgot deadline
  generalize octets a'.buffer = left at hend
  cases hend with
  | @frame content' _ hm hd hbytes =>
    have hread : Frame.split a.maxFrame (Frame.onWire (octets content') ++ left) =
        ⟨octets content' :: (Frame.split a.maxFrame left).frames,
          (Frame.split a.maxFrame left).tail⟩ :=
      Frame.split_onWire_append left (by simpa using hm) (by simpa using hd)
    rw [← hbytes] at hread
    have hsame : octets content' = content := by
      rcases hcomparable with hle | hle
      · have := Frame.split_frames_mono a.maxFrame hle
        rw [hf, hread] at this
        exact (List.cons_prefix_cons.mp this).1.symm
      · have := Frame.split_frames_mono a.maxFrame hle
        rw [hf, hread] at this
        exact (List.cons_prefix_cons.mp this).1
    rw [← hsame, packed_octets]
  | tooLarge n hsplit =>
    rcases hcomparable with hle | ⟨z, hz⟩
    · have := Frame.split_frames_mono a.maxFrame hle
      rw [hf, hsplit] at this
      simp at this
    · rw [← hz, Frame.split_append, hsplit] at hf
      cases hf
  | idle hi =>
    rw [gather_of_idle h hi ho] at hf
    cases hf

/-! ## The operations of a link -/

theorem readFrame_within (h : l.readFrame net = (o, l', net')) :
    Network.Within (net.now + l.ioTimeout) net net' ∧ (o = .abandoned → net.patience ≠ none) := by
  by_cases hw : l.writing = true
  · rw [readFrame, if_pos hw] at h
    cases h
    exact ⟨.refl _ _, by simp⟩
  · have hw : l.writing = false := by simpa using hw
    cases hs : l.stream? with
    | none =>
      rw [readFrame_unconnected hs hw] at h
      cases h
      exact ⟨.refl _ _, by simp⟩
    | some s =>
      obtain ⟨a, hgather, -⟩ := readFrame_connected (stream?_eq_some.mp hs) hw h
      exact gather_within hgather

theorem accept_within {r : Call (Except Failure Bool)} (h : l.accept net = (r, l', net')) :
    Network.Within (net.now + l.ioTimeout) net net' ∧ (r = .abandoned → net.patience ≠ none) := by
  unfold accept at h
  split at h
  · split at h <;> rename_i hwelcome <;>
      obtain ⟨hwithin, habandoned⟩ := Network.welcome_spec hwelcome
    · cases h
      exact ⟨hwithin, nofun⟩
    · cases h
      exact ⟨hwithin, fun _ => habandoned rfl⟩
    · split at h <;> cases h <;> exact ⟨hwithin, nofun⟩
    · cases h
      exact ⟨hwithin, nofun⟩
    · cases h
      exact ⟨hwithin, nofun⟩
  · cases h
    exact ⟨.refl _ _, nofun⟩

theorem openStream_within {target : Address} {timeout : Nat} {r : Call (Except Failure Nat)}
    (h : openStream target timeout net = (r, net')) :
    Network.Within (net.now + timeout) net net' ∧ (r = .abandoned → net.patience ≠ none) := by
  unfold openStream at h
  split at h <;> rename_i hdial <;> obtain ⟨hwithin, habandoned⟩ := Network.dial_spec hdial <;>
    cases h
  · exact ⟨hwithin, nofun⟩
  · exact ⟨hwithin, nofun⟩
  · exact ⟨hwithin, nofun⟩
  · exact ⟨hwithin, fun _ => habandoned rfl⟩

theorem tearDown_within (l : Link) (net : Network) (t : Nat) :
    Network.Within t net (l.tearDown net).2 := by
  have hclose : Network.Within t net (l.close net).2 := by
    unfold close
    dsimp only
    split
    · exact (Network.Within.refl t net).of_eq rfl rfl
    · exact .refl _ _
  unfold tearDown
  dsimp only
  split <;> exact hclose

theorem tryReconnect_within {b : Backoff} {r : Call Bool} (hp : l.phase = .reconnecting b)
    (h : l.tryReconnect net = (r, l', net')) :
    Network.Within (net.now + if b.isDue net.now then l.connectTimeout else 0) net net' ∧
      (r = .abandoned → net.patience ≠ none) ∧ (r = .returned true → b.isDue net.now = true) := by
  unfold tryReconnect at h
  rw [hp] at h
  split at h
  · rename_i heq _
    cases heq
    split at h <;> rename_i hdue
    · rw [if_pos hdue]
      split at h <;> rename_i hopen <;> obtain ⟨hwithin, habandoned⟩ := openStream_within hopen <;>
        cases h
      · exact ⟨hwithin, nofun, fun _ => hdue⟩
      · exact ⟨hwithin, nofun, nofun⟩
      · exact ⟨hwithin, fun _ => habandoned rfl, nofun⟩
    · cases h
      exact ⟨.refl _ _, nofun, nofun⟩
  · have hnot : l.isConnected = false := by simp [isConnected, hp]
    rw [hnot] at h
    cases h
    exact ⟨.refl _ _, nofun, nofun⟩

end Link
end Courier
