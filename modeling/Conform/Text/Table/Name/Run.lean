/-!
# Runs of names

Characters that follow each other often have names that start with the same words. A run of them
keeps these words once, and then what is left of each name.
-/

namespace Conform.Text.Table

/-- **A run of characters with names**, one code point after the other. -/
structure NameRun where
  first : Nat
  /-- What all names of the run start with. -/
  lead : String
  /-- What is left of each name, several in a row with commas between them. -/
  rests : List String

/-- A run of characters whose names end with their own codes in hexadecimal digits. -/
structure CodedNameRun where
  first : Nat
  last : Nat
  lead : String

/-- The runs of characters that are named by their codes. -/
def codedNames : List CodedNameRun := [
  ⟨0xf900, 0xfa6d, "CJK COMPATIBILITY IDEOGRAPH-"⟩, 
  ⟨0xfa70, 0xfad9, "CJK COMPATIBILITY IDEOGRAPH-"⟩,
  ⟨0x18b00, 0x18cd5, "KHITAN SMALL SCRIPT CHARACTER-"⟩, ⟨0x1b170, 0x1b2fb, "NUSHU CHARACTER-"⟩,
  ⟨0x2f800, 0x2fa1d, "CJK COMPATIBILITY IDEOGRAPH-"⟩]

end Conform.Text.Table
