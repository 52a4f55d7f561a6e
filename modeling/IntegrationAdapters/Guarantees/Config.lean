import IntegrationAdapters.Source.Config
import Mathlib.Data.List.DropRight

/-!
# Configuration guarantees

* `Validate_idempotent`: validating the record a trimming `Validate` returns changes nothing,
  that record being the input with its strings trimmed (`StorageConfig.Validate_fst`,
  `ServerConfig.Validate_fst`).
-/

namespace IntegrationAdapters.Guarantees.Config

open IntegrationAdapters.Source Config

theorem trimSpace_eq (s : String) :
    trimSpace s = ⟨(s.toList.dropWhile isSpace).rdropWhile isSpace⟩ := rfl

/-- Dropping spaces from the right keeps a list that starts with a non-space starting with it. -/
theorem dropWhile_rdropWhile {p : Char → Bool} {l : List Char} (start : l.dropWhile p = l) :
    (l.rdropWhile p).dropWhile p = l.rdropWhile p := by
  cases l with
  | nil => rfl
  | cons a rest =>
    have notSpace : p a = false := by simpa using (List.dropWhile_eq_self_iff.mp start) (by simp)
    rcases List.prefix_cons_iff.mp (List.rdropWhile_prefix (p := p) (l := a :: rest)) with
      empty | ⟨t, eq, -⟩
    · rw [empty]; rfl
    · rw [eq, List.dropWhile_cons_of_neg (by simp [notSpace])]

theorem trimSpace_trimSpace (s : String) : trimSpace (trimSpace s) = trimSpace s := by
  rw [trimSpace_eq (trimSpace s), trimSpace_eq s]
  simp only [String.toList, trimSpace_eq]
  rw [dropWhile_rdropWhile (List.dropWhile_idempotent _ _), List.rdropWhile_idempotent]

theorem StorageConfig.Validate_fst (p : StorageConfig) :
    p.Validate.1 = { p with URL := trimSpace p.URL, DB := trimSpace p.DB } := by
  simp only [StorageConfig.Validate, ite_self]
  split <;> rfl

theorem StorageConfig.Validate_Validate (p : StorageConfig) :
    p.Validate.1.Validate = p.Validate := by
  rw [StorageConfig.Validate_fst]
  simp [StorageConfig.Validate, trimSpace_trimSpace]

theorem ServerConfig.Validate_fst (hs : ServerConfig) :
    hs.Validate.1 = ⟨trimSpace hs.Namespace, trimSpace hs.Name, trimSpace hs.Address,
      trimSpace hs.ReplAddress⟩ :=
  rfl

theorem ServerConfig.Validate_Validate (hs : ServerConfig) :
    hs.Validate.1.Validate = hs.Validate := by
  rw [ServerConfig.Validate_fst]
  simp [ServerConfig.Validate, trimSpace_trimSpace]

/-- Validating again the record a trimming `Validate` returns gives the same record and error. -/
theorem Validate_idempotent (p : StorageConfig) (hs : ServerConfig) :
    p.Validate.1.Validate = p.Validate ∧ hs.Validate.1.Validate = hs.Validate :=
  ⟨StorageConfig.Validate_Validate p, ServerConfig.Validate_Validate hs⟩

/-! ## Loading -/

/-- Without a file and without variables the storage loader's record is rejected on its URL, the
cache loader's passes. -/
example : BuildNewStorageConfig "" (.ok id) (.ok id) =
    .ok (⟨0, "", ""⟩, some ⟨"URL", "MongoDB driver expects a valid url"⟩) := rfl

example : BuildNewCacheConfig "" (.ok id) (.ok id) = .ok (⟨0, 10, "", "", "", 0⟩, none) := rfl

end IntegrationAdapters.Guarantees.Config
