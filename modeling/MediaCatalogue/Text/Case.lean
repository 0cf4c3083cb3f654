/-! Names are compared without regard to the case of the letters of ASCII. -/

namespace MediaCatalogue

def foldCase (s : String) : List Char := s.toList.map Char.toLower

/-- Whether two names are the same but for the case of ASCII letters. -/
def sameName (a b : String) : Bool := foldCase a == foldCase b

theorem sameName_iff {a b : String} : sameName a b = true ↔ foldCase a = foldCase b := by
  simp [sameName]

@[simp] theorem sameName_refl (a : String) : sameName a a = true := by simp [sameName]

theorem sameName_comm (a b : String) : sameName a b = sameName b a := by
  simp only [sameName, Bool.beq_comm]

theorem sameName_congr_right {a b : String} (h : sameName a b = true) (name : String) :
    sameName name a = sameName name b := by
  rw [sameName, sameName, sameName_iff.mp h]

theorem sameName_of_sameName {name a b : String} (ha : sameName name a = true)
    (hb : sameName name b = true) : sameName a b = true :=
  sameName_iff.mpr ((sameName_iff.mp ha).symm.trans (sameName_iff.mp hb))

end MediaCatalogue
