import OrgAccess.Guid

/-! The text of a GUID names it. -/

namespace OrgAccess.Guid

theorem hexDigit?_hexChar (d : Fin 16) : hexDigit? (hexChar d) = some d := by
  revert d
  decide

theorem mapM_hexDigit? (ds : List (Fin 16)) : (ds.map hexChar).mapM hexDigit? = some ds := by
  induction ds with
  | nil => rfl
  | cons d ds ih =>
    rw [List.map_cons, List.mapM_cons, hexDigit?_hexChar, ih]
    rfl

/-- The digits of a GUID name it. -/
theorem ofHex?_digits (g : Guid) : ofHex? (g.digits.map hexChar) = some g := by
  rw [ofHex?, mapM_hexDigit?, Option.bind_some, ofDigits?, dif_pos g.length_digits]

/-- Five groups are read without their hyphens. -/
theorem groups_of_hyphenated {a b c d : List Char} (e : List Char) (ha : a.length = 8)
    (hb : b.length = 4) (hc : c.length = 4) (hd : d.length = 4) :
    let cs := a ++ '-' :: b ++ '-' :: c ++ '-' :: d ++ '-' :: e
    cs.take 8 ++ (cs.drop 9).take 4 ++ (cs.drop 14).take 4 ++ (cs.drop 19).take 4 ++ cs.drop 24 =
      a ++ b ++ c ++ d ++ e := by
  simp (disch := omega) [List.drop_append, List.drop_of_length_le, ha, hb, hc,
    hd]

theorem take_append_drop_add {α : Type} (xs : List α) (m n : Nat) :
    (xs.drop m).take n ++ xs.drop (m + n) = xs.drop m := by
  rw [← List.drop_drop, List.take_append_drop]

/-- Without its hyphens, a hyphenated text is what it was. -/
theorem groups_of_hyphenate {cs : List Char} (h : cs.length = 32) :
    let hs := hyphenate cs
    hs.take 8 ++ (hs.drop 9).take 4 ++ (hs.drop 14).take 4 ++ (hs.drop 19).take 4 ++ hs.drop 24 =
      cs := by
  have hgroups : cs.take 8 ++ (cs.drop 8).take 4 ++ (cs.drop 12).take 4 ++ (cs.drop 16).take 4 ++
      cs.drop 20 = cs := by
    rw [List.append_assoc, take_append_drop_add cs 16 4, List.append_assoc,
      take_append_drop_add cs 12 4, List.append_assoc, take_append_drop_add cs 8 4,
      List.take_append_drop]
  exact (groups_of_hyphenated (cs.drop 20) (by simp [h]) (by simp [h]) (by simp [h])
    (by simp [h])).trans hgroups

theorem ofHyphenated?_hyphenate {cs : List Char} (h : cs.length = 32) :
    ofHyphenated? (hyphenate cs) = ofHex? cs := by
  show (if hyphenate _ = hyphenate cs then ofHex? _ else none) = _
  rw [groups_of_hyphenate h, if_pos rfl]

theorem length_hyphenate {cs : List Char} (h : cs.length = 32) : (hyphenate cs).length = 36 := by
  simp [hyphenate, h]

/-- What a GUID is written as is read as the GUID. -/
theorem parse?_text (g : Guid) : parse? g.text = some g := by
  have hdigits : (g.digits.map hexChar).length = 32 := by rw [List.length_map, g.length_digits]
  have hlen := length_hyphenate hdigits
  rw [parse?, text, String.toList_ofList, if_neg (by omega), if_pos hlen,
    ofHyphenated?_hyphenate hdigits, ofHex?_digits]

end OrgAccess.Guid
