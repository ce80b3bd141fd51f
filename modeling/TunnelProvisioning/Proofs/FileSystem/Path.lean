import TunnelProvisioning.FileSystem.Path
import TunnelProvisioning.Proofs.Text.Utf8

/-! # Paths that are texts

The text of a path is the one text that spells the path. A path has none exactly if its octets are
not well formed.
-/

namespace TunnelProvisioning.Path

def IsText (path : Path) : Prop :=
  ∃ text, path = .ofText text

theorem text?_eq_some_iff {path : Path} {text : String} :
    path.text? = some text ↔ path = .ofText text := by
  obtain ⟨octets⟩ := path
  simp only [text?, ofText, Option.map_eq_some_iff, mk.injEq, Utf8.decode?_eq_some_iff]
  constructor
  · rintro ⟨cs, rfl, rfl⟩
    rw [String.toList_ofList]
  · intro same
    exact ⟨text.toList, same.symm, String.ofList_toList⟩

theorem isSome_text?_iff {path : Path} : path.text?.isSome = true ↔ path.IsText := by
  simp only [Option.isSome_iff_exists, text?_eq_some_iff, IsText]

instance (path : Path) : Decidable path.IsText :=
  decidable_of_iff _ isSome_text?_iff

end TunnelProvisioning.Path
