import Courier.Proofs.Endpoint.Run
import Courier.Proofs.Endpoint.Sending
import Courier.Proofs.Record
import Courier.Proofs.Timing.Samples

/-!
# The records of an endpoint

Bytes are read as a record if they hold a header that names one of the two ways, and they
are what the record is written as. The only record that is not read back as it was is one
that echoes the stamp which stands for no echo. An endpoint makes no such record: an echo
that has become this stamp is not given.
-/

namespace Courier.Endpoint

open Simulation (SampleCipher)

variable {κ α : Type} [Cipher κ] {e e' : Endpoint κ α} {net net' : Network}
  {payload frame : ByteArray} {record : Record}

/-- The record that a call of `send` makes of a message, if it gets as far. -/
def Makes (e : Endpoint κ α) (net : Network) (payload : ByteArray) (record : Record) : Prop :=
  ∃ e₁ net₁, Prepares e net e₁ net₁ ∧ (e₁.stamp payload net₁.now).1 = record

omit [Cipher κ] in
theorem Makes.decode (h : Makes e net payload record) :
    Record.decode record.encode = .ok record := by
  obtain ⟨e₁, net₁, -, rfl⟩ := h
  exact Record.decode_eq_ok_iff.mpr ⟨rfl, e₁.echo.take_ne_noEcho net₁.now⟩

theorem exists_makes_of_sent (h : e.send payload net = (.returned (.ok .sent), e', net')) :
    ∃ record body frame e₁ net₁, Makes e net payload record ∧
      (Cipher.encrypt e.cipher record.encode).1 = .ok body ∧ Framed frame body ∧
      Prepares e net e₁ net₁ ∧
      e₁.link.writeFrame frame net₁ = (.returned (.ok ()), e'.link, net') := by
  rcases send_cases h with ⟨e₁, net₁, hp, hconn⟩ | ⟨-, ho⟩ | ⟨e₁, -, -, -, ho⟩
  · obtain ⟨_, _, _, _, _, hcipher⟩ := prepare_spec hp.prepare
    generalize ho : Call.returned (Except.ok Sent.sent) = o at hconn
    cases sendConnected_delivers hconn with
    | refused hpack => cases ho
    | abandoned hpack hw => cases ho
    | @sent frame e₂ link after hpack hw =>
      obtain ⟨body, hsealed, hframe⟩ := pack_eq_ok_iff.mp (congrArg Prod.fst hpack)
      obtain ⟨-, hd, hoct⟩ := Frame.encode_eq_ok_iff.mp hframe
      have hlink := link_pack e₁ payload net₁.now
      rw [hpack] at hlink
      rw [hcipher] at hsealed
      exact ⟨_, body, frame, e₁, net₁, ⟨e₁, net₁, hp, rfl⟩, hsealed, ⟨hoct, hd⟩, hp,
        hlink ▸ hw⟩
    | lost hpack hw =>
      unfold reportedUnsent at ho
      split at ho <;> cases ho
  · cases ho
  · unfold unsent at ho
    split at ho <;> cases ho

/-- Bytes are read as a record just if they hold a header that begins with the marker of a way;
that they are too short is found before the marker is looked at. What is read from bytes is
written as these bytes; what is written is read back but for an echo of the stamp that
stands for none, and two records are written alike just if they differ in no more. Of the
records that an endpoint makes, in whatever state it is, whenever it does, and of whatever
message, each is read back as it was; and what it sends is such a record, sealed. -/
theorem records_read_back :
    (∀ b, (∃ r, Record.decode b = .ok r) ↔
      5 ≤ b.size ∧ ((octets b).head? = some 0 ∨ (octets b).head? = some 1)) ∧
    (∀ b n k, Record.decode b = .error (.tooShort n k) ↔ b.size < 5 ∧ n = 5 ∧ k = b.size) ∧
    (∀ b m, Record.decode b = .error (.invalidDirection m) ↔
      5 ≤ b.size ∧ (octets b).head? = some m ∧ m ≠ 0 ∧ m ≠ 1) ∧
    (∀ b r, Record.decode b = .ok r ↔ r.encode = b ∧ r.echo ≠ some noEcho) ∧
    (∀ r : Record, Record.decode r.encode = .ok r.readBack) ∧
    (∀ r r' : Record, r.encode = r'.encode ↔ r.readBack = r'.readBack) ∧
    (∀ (e : Endpoint κ α) net payload record, Makes e net payload record →
      Record.decode record.encode = .ok record) ∧
    ∀ (e : Endpoint κ α) net payload e' net',
      e.send payload net = (.returned (.ok .sent), e', net') →
      ∃ record body frame e₁ net₁, Makes e net payload record ∧
        (Cipher.encrypt e.cipher record.encode).1 = .ok body ∧ Framed frame body ∧
        Prepares e net e₁ net₁ ∧
        e₁.link.writeFrame frame net₁ = (.returned (.ok ()), e'.link, net') :=
  ⟨fun b => (Record.decode_refusals b).1, fun b => (Record.decode_refusals b).2.1,
    fun b => (Record.decode_refusals b).2.2, fun _ _ => Record.decode_eq_ok_iff,
    Record.decode_encode, fun _ _ => Record.encode_eq_encode_iff, fun _ _ _ _ h => h.decode,
    fun _ _ _ _ _ h => exists_makes_of_sent h⟩

/-- The client next door seals a record of its first message that is read back as it was. -/
theorem records_read_back_nearby : ∃ record : Record, record.direction = .toServer ∧
    record.payload = packed [1, 2] ∧ Record.decode record.encode = .ok record ∧
    ∃ body, (Cipher.encrypt (SampleCipher.masked 7) record.encode).1 = .ok body := by
  obtain ⟨-, -, -, -, -, -, hmade, hsent⟩ := @records_read_back SampleCipher Rat _
  have ho : (send (ofLink Link.nearbyLink (.masked 7) 0 : Endpoint SampleCipher Rat)
      (packed [1, 2]) (Link.connect Link.nearby .obliging).2).1 = .returned (.ok .sent) := by
    decide +kernel
  obtain ⟨record, body, -, -, -, hmakes, hsealed, -⟩ := hsent _ _ _ _ _ (Prod.ext ho rfl)
  have hread := hmade _ _ _ _ hmakes
  obtain ⟨e₁, net₁, hp, rfl⟩ := hmakes
  exact ⟨_, congrArg Role.outgoing hp.role, rfl, hread, body, hsealed⟩

end Courier.Endpoint
