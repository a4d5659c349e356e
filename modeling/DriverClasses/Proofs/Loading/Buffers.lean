import DriverClasses.Proofs.Loading.Answer

/-!
# When a load gives up

A location gives up on an entry that says that it is larger than any buffer and is allowed to be
that large, and on no other (`readCapped_eq_crashed_iff`).  So a load in a context over locations
ends with a class or an error, unless the limit of the context is beyond what a buffer can hold
(`Located.lt_of_crashed`).
-/

namespace DriverClasses.Loading

open DriverClasses.ClassFile DriverClasses.Text DriverClasses.Files

variable {files : FileTree} {location : Location} {entry name reason : String} {limit id : Nat}

theorem readCapped_eq_crashed_iff {content : Content} :
    content.readCapped entry limit = .crashed reason
      ↔ reason = "capacity overflow" ∧ largestBuffer < content.declared
        ∧ content.declared ≤ limit := by
  unfold Content.readCapped bufferSize
  by_cases hlimit : limit < content.declared
  · rw [if_pos hlimit]
    refine iff_of_false (fun h => nomatch h) ?_
    rintro ⟨-, -, hle⟩
    omega
  · rw [if_neg hlimit, Nat.min_eq_left (Nat.le_of_not_lt hlimit)]
    by_cases hbuffer : largestBuffer < content.declared
    · rw [if_pos hbuffer, Lookup.crashed.injEq]
      exact ⟨fun h => ⟨h.symm, hbuffer, Nat.le_of_not_lt hlimit⟩, fun h => h.1.symm⟩
    · rw [if_neg hbuffer]
      refine iff_of_false ?_ fun h => hbuffer h.2.1
      cases content.read (request limit) with
      | error fault => exact fun h => nomatch h
      | ok bytes => dsimp only; split <;> exact fun h => nomatch h

theorem lt_limit_of_readCapped {content : Content}
    (h : content.readCapped entry limit = .crashed reason) : largestBuffer < limit := by
  obtain ⟨-, hbuffer, hlimit⟩ := readCapped_eq_crashed_iff.mp h
  exact Nat.lt_of_lt_of_le hbuffer hlimit

theorem lt_limit_of_findInLocation
    (h : findInLocation location files entry limit = .crashed reason) : largestBuffer < limit := by
  unfold findInLocation at h
  split at h
  · unfold findInDirectory at h
    split at h
    · exact lt_limit_of_readCapped h
    all_goals cases h
  · unfold findInArchive at h
    split at h
    · cases h
    · exact lt_limit_of_readCapped h
    · cases h
  all_goals cases h

namespace Forest

/-- All sources are locations. -/
def Located (f : Forest) : Prop :=
  ∀ c ∈ f.contexts, ∀ s ∈ c.sources, ∃ location, s = .ofLocation location

variable {f g : Forest}

theorem Located.load (h : f.Located) (files : FileTree) (id : Nat) (name : String) :
    (f.load files id name).2.Located := by
  rcases load_cases f files id name with ⟨_, -, hload⟩ | ⟨c, _, _, _, _, -, hload⟩ |
    ⟨_, _, -, hload⟩
  · rw [hload]
    exact h
  · rw [hload]
    intro d hd
    obtain ⟨before, hbefore, rfl⟩ := List.mem_map.mp hd
    split <;> exact h before hbefore
  · rw [hload]
    exact h

theorem Located.lt_of_crashed {ops : List Operation} (hf : f.Sound ops) (h : f.Located)
    {c : Context} (hc : f.context? id = some c)
    (hload : f.load files id name = (.crashed reason, g)) :
    largestBuffer < c.policy.maxEntryBytes := by
  have hmem := mem_of_context? hc
  rw [← id_of_context? hc] at hload
  cases (hf.load_eq_iff hmem).mp hload with
  | @crashed before after s _ _ hsplit _ hcrashes =>
    obtain ⟨location, rfl⟩ := h c hmem s (hsplit ▸ List.mem_append_right _ List.mem_cons_self)
    exact lt_limit_of_findInLocation hcrashes

end Forest

end DriverClasses.Loading
