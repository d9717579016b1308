import EnvProvision.Text.Lossy

namespace EnvProvision

namespace Bytes

-- The bytes as a text of units, which has one character for each of them. Operations on such texts
-- are operations on bytes.
def units (bytes : Bytes) : String :=
  String.ofList (bytes.map fun b => Char.ofNat b.toNat)

def ofUnits (text : String) : Bytes :=
  text.toList.map fun c => c.toNat.toUInt8

@[simp]
theorem ofUnits_units (bytes : Bytes) : ofUnits bytes.units = bytes := by
  have h (b : UInt8) : (Char.ofNat b.toNat).toNat.toUInt8 = b := by
    have hb : b.toNat < 256 := b.toNat_lt
    have hv : b.toNat.isValidChar := Or.inl (by omega)
    have hc : (Char.ofNat b.toNat).toNat = b.toNat := by
      rw [Char.ofNat, dif_pos hv]
      rfl
    simp [hc]
  simp [ofUnits, units, List.map_map, Function.comp_def, h]

end Bytes

namespace Text

def units (text : String) : String :=
  (Bytes.ofText text).units

@[simp]
theorem ofUnits_units (text : String) : Bytes.ofUnits (units text) = Bytes.ofText text :=
  Bytes.ofUnits_units _

end Text

end EnvProvision
