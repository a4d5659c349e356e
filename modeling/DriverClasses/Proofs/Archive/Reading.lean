import DriverClasses.Archive.Basic

/-!
# Reading short

Fewer bytes than were wanted are all that there are.  Whoever wants more gets the same bytes then,
and neither a fault of the format nor the checksum comes in between (`read_of_short`): data is taken
and written out in the same pieces and windows whatever is wanted, which decides only how far this
goes.
-/

namespace DriverClasses.Archive

open DriverClasses.Text

variable {wanted more : Nat}

namespace Inflate

variable {data out : Array UInt8}

/-- Short of what is wanted, delivery ends with the data only. -/
theorem deliver_of_short (hle : wanted ≤ more) (hshort : out.size < wanted) :
    ∀ (fuel atHand window : Nat) (s : State),
      deliver data wanted fuel atHand window s = .ok out →
      deliver data more fuel atHand window s = .ok out
  | 0, _, _, _, h => nomatch h
  | fuel + 1, atHand, window, s, h => by
    have ih := deliver_of_short hle hshort fuel
    unfold deliver at h ⊢
    by_cases hfull : wanted ≤ s.out.size
    · rw [if_pos hfull] at h
      have hout : s.out = out := Except.ok.inj h
      rw [hout] at hfull
      omega
    · rw [if_neg hfull] at h
      rw [if_neg (by omega : ¬ more ≤ s.out.size)]
      -- The run from here is the same for both requests, and so is what it goes on with.
      cases hrun : run ⟨data, atHand⟩ window (24 * data.size + 16) s with
      | mk t halt =>
        rw [hrun] at h
        cases halt with
        | finished => exact h
        | corrupt => cases h
        | full => exact ih _ _ _ h
        | starved =>
          dsimp only at h ⊢
          by_cases hend : data.size ≤ atHand
          · rw [if_pos hend] at h
            split at h
            · rename_i hthere
              have hout : t.out = out := Except.ok.inj h
              rw [hout] at hthere
              omega
            · cases h
          · rw [if_neg hend] at h ⊢
            exact ih _ _ _ h

end Inflate

variable {bytes : Bytes} {member : Member}

theorem toList_take (out : Array UInt8) (n : Nat) : (out.take n).toList = out.toList.take n := by
  simp

theorem inflate_of_short {data : Bytes} (hle : wanted ≤ more) (hshort : bytes.length < wanted)
    (h : inflate data wanted = .ok bytes) : inflate data more = .ok bytes := by
  unfold inflate at h ⊢
  dsimp only at h ⊢
  cases hdeliver : Inflate.deliver data.toArray wanted (data.toArray.size + 4) Inflate.pieceSize
      Inflate.windowSize .start with
  | error fault =>
    rw [hdeliver] at h
    cases h
  | ok out =>
    rw [hdeliver] at h
    have hbytes : (out.take wanted).toList = bytes := Except.ok.inj h
    rw [toList_take] at hbytes
    have hsize : out.size < wanted := by
      rw [← hbytes, List.length_take, Array.length_toList] at hshort
      omega
    rw [List.take_of_length_le (by simpa using Nat.le_of_lt hsize)] at hbytes
    rw [Inflate.deliver_of_short hle hsize _ _ _ _ hdeliver, Except.map, toList_take,
      List.take_of_length_le (by rw [Array.length_toList]; omega), hbytes]

namespace Member

theorem expand_of_short (hle : wanted ≤ more) (hshort : bytes.length < wanted)
    (h : member.expand wanted = .ok bytes) : member.expand more = .ok bytes := by
  unfold expand at h ⊢
  by_cases hdeflated : member.isDeflated
  · rw [if_pos hdeflated] at h ⊢
    cases hinflate : inflate member.data wanted with
    | error fault => simp [hinflate] at h
    | ok out =>
      simp only [hinflate, Except.ok.injEq] at h
      subst h
      rw [inflate_of_short hle hshort hinflate]
  · rw [if_neg hdeflated, Except.ok.injEq] at h ⊢
    subst h
    rw [List.length_take] at hshort
    rw [List.take_of_length_le (by omega), List.take_of_length_le (by omega)]

theorem read_of_short (hle : wanted ≤ more) (hshort : bytes.length < wanted)
    (h : member.read wanted = .ok bytes) : member.read more = .ok bytes := by
  unfold read at h ⊢
  cases hexpand : member.expand wanted with
  | error fault => simp [hexpand, bind, Except.bind] at h
  | ok out =>
    simp only [hexpand, bind, Except.bind] at h
    split at h
    · cases h
    · rename_i hchecked
      have hout : out = bytes := Except.ok.inj h
      subst hout
      have hlater : ¬(out.length < more ∧ (Digest.crc32 out).toNat ≠ member.crc) :=
        fun hbad => hchecked ⟨hshort, hbad.2⟩
      simp only [expand_of_short hle hshort hexpand, bind, Except.bind, if_neg hlater]
      rfl

end Member

end DriverClasses.Archive
