import BurstLoad.Link
import BurstLoad.Proofs.Frame.Codec

/-! What a connection has taken, chunk by chunk. A send adds one whole frame to it or, if it fails
before that, nothing; no other operation changes it. -/

set_option autoImplicit false

namespace BurstLoad

namespace Network.Wire

/-- The chunks that a connection took, without their times. -/
def taken (w : Wire) : List Bytes :=
  w.written.toList.map Prod.snd

theorem taken_write (w : Wire) (now : Time) (bytes : Bytes) :
    (∃ draining, (w.write now bytes).2 = .ok draining ∧
        (w.write now bytes).1.taken = w.taken ++ [bytes]) ∨
      (∃ fault, (w.write now bytes).2 = .error fault) ∧
        (w.write now bytes).1.taken = w.taken := by
  unfold write
  dsimp only
  split
  · exact .inr ⟨⟨_, rfl⟩, rfl⟩
  · exact .inl ⟨_, rfl, by simp [taken]⟩

end Network.Wire

namespace Link

variable {payload : Nat → Bytes} {count : Nat}

/-- A connection took the first so many frames of a row and nothing else. -/
def Carries (payload : Nat → Bytes) (count : Nat) (l : Link) : Prop :=
  l.wire.taken = (List.range count).map fun place => Frame.wrap (payload place)

/-- What a connection carries when the sends are over: one frame more than were counted only where
the last send was cut short. -/
def CarriesAtEnd (payload : Nat → Bytes) (counted : Nat) (cut : Prop) (l : Link) : Prop :=
  l.Carries payload counted ∨ cut ∧ l.Carries payload (counted + 1)

theorem Carries.fresh (payload : Nat → Bytes) (address : Endpoint) (plan : Network.WirePlan) :
    Carries payload 0 { wire := { address, plan } } :=
  rfl

/-- A send of the next payload puts its frame on the connection, or fails. -/
theorem Carries.launch {l : Link} (carries : l.Carries payload count) (now : Time)
    (short : (payload count).length < Bytes.wordCount) :
    (l.launch now (payload count)).1.Carries payload (count + 1) ∨
      (l.launch now (payload count)).2.fault.isSome ∧
        (l.launch now (payload count)).1.Carries payload count := by
  have frames : (List.range (count + 1)).map (fun place => Frame.wrap (payload place)) =
      l.wire.taken ++ [Frame.wrap (payload count)] := by
    rw [List.range_succ, List.map_append, carries]
    rfl
  -- The encoder does not fail, so that what happens is what the wire does.
  have effect := l.wire.taken_write now (Frame.wrap (payload count))
  unfold Link.launch
  rw [Frame.encode_maxLength short]
  dsimp only
  split
  · next wire fault written =>
    rw [written] at effect
    obtain ⟨draining, absurd, -⟩ | ⟨-, same⟩ := effect
    · cases absurd
    · exact .inr ⟨rfl, same.trans carries⟩
  · next wire draining written =>
    rw [written] at effect
    obtain ⟨-, -, more⟩ | ⟨⟨fault, absurd⟩, -⟩ := effect
    · exact .inl (more.trans frames.symm)
    · cases absurd

theorem Carries.land {l : Link} (carries : l.Carries payload count) (flight : Flight) :
    (l.land flight).1.Carries payload count := by
  unfold Link.land
  split <;> exact carries

theorem fault_land (l : Link) (flight : Flight) : (l.land flight).2 = flight.fault := by
  unfold land
  split
  · next same => exact same.symm
  · next same => exact same.symm

theorem taken_close (l : Link) : l.close.1.wire.taken = l.wire.taken := by
  have same : l.wire.close.1.taken = l.wire.taken := rfl
  unfold close
  split
  · next closed =>
    rw [closed] at same
    exact same
  · next closed =>
    rw [closed] at same
    split <;> exact same

theorem CarriesAtEnd.close {counted : Nat} {cut : Prop} {l : Link}
    (carries : l.CarriesAtEnd payload counted cut) :
    l.close.1.CarriesAtEnd payload counted cut := by
  unfold CarriesAtEnd Carries at carries ⊢
  rw [taken_close]
  exact carries

/-- Nothing was ever written on a connection. -/
structure IsIdle (l : Link) : Prop where
  writes : l.wire.writes = 0
  written : l.wire.written = #[]

theorem IsIdle.close {l : Link} (idle : l.IsIdle) : l.close.1.IsIdle := by
  have writes : l.wire.close.1.writes = l.wire.writes := rfl
  have written : l.wire.close.1.written = l.wire.written := rfl
  obtain ⟨none, empty⟩ := idle
  unfold Link.close
  split
  · next closed =>
    rw [closed] at writes written
    exact ⟨writes.trans none, written.trans empty⟩
  · next closed =>
    rw [closed] at writes written
    split <;> exact ⟨writes.trans none, written.trans empty⟩

end Link

end BurstLoad
