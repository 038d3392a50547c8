import Kerber.Store.IpropXdr

/-!
# The serial of an encoded update

`walkIncrUpdate_encode_sno`: walking over an encoded update finds the serial it was encoded with,
whatever bytes stand in the place of its attributes.
-/

namespace Kerber.Store

namespace XdrIn

theorem take_append {n : Nat} {s rest : Str} (h : s.length = n) (pos : Nat) :
    take n ⟨s ++ rest, pos⟩ = .ok (s, ⟨rest, pos + n⟩) := by
  have hle : n ≤ (s ++ rest).length := by
    rw [List.length_append]
    omega
  rw [take, if_pos hle, List.take_left' h, List.drop_left' h]

theorem u32_append (x : UInt32) (rest : Str) (pos : Nat) :
    u32 ⟨be32 x ++ rest, pos⟩ = .ok (x, ⟨rest, pos + 4⟩) := by
  have hjoin : joinBytes32 ((be32 x).getD 3 0) ((be32 x).getD 2 0) ((be32 x).getD 1 0)
      ((be32 x).getD 0 0) = x := joinBytes32_byteOf x
  rw [u32, take_append (length_be32 x)]
  show Except.ok (joinBytes32 _ _ _ _, _) = _
  rw [hjoin]

theorem bytes_append {s : Str} (h : s.length < 2 ^ 32) (rest : Str) (pos : Nat) :
    bytes ⟨xdrOpaque s ++ rest, pos⟩ =
      .ok (s, ⟨rest, pos + 4 + s.length + xdrPad s.length⟩) := by
  have hlen : (u32OrMax s.length).toNat = s.length := by
    rw [u32OrMax, if_pos h]
    exact UInt32.toNat_ofNat_of_lt' h
  have happend : xdrOpaque s ++ rest =
      be32 (u32OrMax s.length) ++ (s ++ (List.replicate (xdrPad s.length) 0 ++ rest)) := by
    simp only [xdrOpaque, List.append_assoc]
  rw [bytes, happend, u32_append]
  show (take (u32OrMax s.length).toNat _ >>= _) = _
  rw [hlen, take_append rfl]
  show (take (xdrPad s.length) _ >>= _) = _
  rw [take_append List.length_replicate]
  rfl

end XdrIn

/-- **The serial a walk finds is the one the update was encoded with.** -/
theorem walkIncrUpdate_encode_sno {name kdbe : Str} {sno : UInt32} {time : UlogTime}
    {deleted commit : Bool} {layout : IncrLayout} (hname : name.length < 2 ^ 32)
    (h : walkIncrUpdate (encodeIncrUpdate name sno time kdbe deleted commit) = .ok layout) :
    layout.sno = sno := by
  set tail := be32 time.seconds ++ be32 time.useconds ++ kdbe ++ be32 (if deleted then 1 else 0)
    ++ be32 (if commit then 1 else 0) ++ be32 0 ++ be32 0 with htail
  have hencode : encodeIncrUpdate name sno time kdbe deleted commit =
      xdrOpaque name ++ (be32 sno ++ tail) := by
    simp only [encodeIncrUpdate, htail, List.append_assoc]
  rw [hencode] at h
  obtain ⟨⟨name', r⟩, hbytes, h⟩ := bind_ok h
  rw [XdrIn.bytes_append hname] at hbytes
  obtain ⟨rfl, rfl⟩ := Prod.mk.inj (Except.ok.inj hbytes)
  obtain ⟨_, h⟩ := rejectIf_bind_ok h
  obtain ⟨⟨sno', r⟩, hsno, h⟩ := bind_ok h
  rw [XdrIn.u32_append] at hsno
  obtain ⟨rfl, rfl⟩ := Prod.mk.inj (Except.ok.inj hsno)
  -- nothing after the serial changes it
  obtain ⟨_, _, h⟩ := bind_ok h
  obtain ⟨_, _, h⟩ := bind_ok h
  obtain ⟨_, _, h⟩ := bind_ok h
  obtain ⟨_, _, h⟩ := bind_ok h
  obtain ⟨_, _, h⟩ := bind_ok h
  obtain ⟨_, _, h⟩ := bind_ok h
  obtain ⟨_, _, h⟩ := bind_ok h
  obtain ⟨_, _, h⟩ := bind_ok h
  obtain ⟨_, h⟩ := rejectIf_bind_ok h
  rw [← Except.ok.inj h]

theorem length_le_encodeIncrUpdate (name kdbe : Str) (sno : UInt32) (time : UlogTime)
    (deleted commit : Bool) :
    name.length ≤ (encodeIncrUpdate name sno time kdbe deleted commit).length := by
  simp only [encodeIncrUpdate, xdrOpaque, List.length_append]
  omega

end Kerber.Store
