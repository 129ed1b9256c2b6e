import OrgAccess.Proofs.Web.Access

/-! Routes and their paths. A route is found again from its path as long as the part that is given
in the path holds no slash, and a part without a percent sign stands for itself. A principal who
asks for a route by GET gets the answer of the route. -/

namespace OrgAccess

namespace Text

theorem toUtf8_eq_flatMap (s : String) : toUtf8 s = s.toList.flatMap String.utf8EncodeChar := by
  conv => lhs; rw [← String.ofList_toList (s := s)]
  rw [toUtf8, String.toByteArray_ofList, List.utf8Encode, List.data_toByteArray]

/-- Only an ASCII character has an ASCII byte in its encoding. -/
theorem toNat_of_mem_utf8EncodeChar {c : Char} {b : UInt8} (hb : b.toNat < 128)
    (h : b ∈ String.utf8EncodeChar c) : c.toNat = b.toNat := by
  have hval : c.val.toNat = c.toNat := rfl
  have hlarge : ∀ n, 128 ≤ n → n < 256 → b ≠ UInt8.ofNat n := by
    rintro n hle hlt rfl
    rw [UInt8.toNat_ofNat'] at hb
    omega
  rw [String.utf8EncodeChar] at h
  simp only [hval] at h
  split at h
  · rw [List.mem_singleton.1 h, UInt8.toNat_ofNat']
    omega
  · exfalso
    split at h
    · simp only [List.mem_cons, List.not_mem_nil, or_false] at h
      rcases h with h | h <;> exact hlarge _ (by omega) (by omega) h
    · split at h
      · simp only [List.mem_cons, List.not_mem_nil, or_false] at h
        rcases h with h | h | h <;> exact hlarge _ (by omega) (by omega) h
      · simp only [List.mem_cons, List.not_mem_nil, or_false] at h
        rcases h with h | h | h | h <;> exact hlarge _ (by omega) (by omega) h

end Text

namespace Web

namespace Percent

theorem decode_of_not_mem {bs : List UInt8} (h : '%'.toUInt8 ∉ bs) : decode bs = bs := by
  induction bs with
  | nil => rw [decode]
  | cons b bs ih =>
    obtain ⟨hb, hbs⟩ := not_or.1 (mt List.mem_cons.2 h)
    rw [decode, if_neg fun heq => hb heq.symm, ih hbs]

/-- A part of a path without percent signs stands for itself. -/
theorem text?_of_not_mem {s : String} (h : '%' ∉ s.toList) : text? s = some s := by
  have hbytes : '%'.toUInt8 ∉ Text.toUtf8 s := by
    rw [Text.toUtf8_eq_flatMap, List.mem_flatMap]
    rintro ⟨c, hc, hbyte⟩
    have hcode : c.toNat = '%'.toNat := Text.toNat_of_mem_utf8EncodeChar (by decide) hbyte
    rw [Char.toNat_inj.1 hcode] at hc
    exact h hc
  rw [text?, decode_of_not_mem hbytes, Text.ofUtf8?_toUtf8]

end Percent

namespace Route

/-- What is given in the path of the route holds no slash. -/
def Plain : Route → Prop
  | .org segment => '/' ∉ segment.toList
  | .entity segment => '/' ∉ segment.toList
  | .mine => True

theorem segments_of_path {first segment last : String} (hfirst : '/' ∉ first.toList)
    (hsegment : '/' ∉ segment.toList) (hlast : '/' ∉ last.toList) :
    segments ("/" ++ first ++ "/" ++ segment ++ "/" ++ last) = ["", first, segment, last] := by
  have hpath : ("/" ++ first ++ "/" ++ segment ++ "/" ++ last).toList =
      [] ++ '/' :: (first.toList ++ '/' :: (segment.toList ++ '/' :: last.toList)) := by
    simp
  rw [segments, hpath, List.splitOn_append_cons_self_of_not_mem (by simp),
    List.splitOn_append_cons_self_of_not_mem hfirst,
    List.splitOn_append_cons_self_of_not_mem hsegment, List.splitOn_eq_singleton hlast]
  simp

theorem ofPath?_path {route : Route} (h : route.Plain) : ofPath? route.path = some route := by
  cases route with
  | org segment =>
    have hpath : (Route.org segment).path = "/" ++ "orgs" ++ "/" ++ segment ++ "/" ++
        "authorizations" := by
      simp [path, ← String.toList_inj]
    rw [ofPath?, hpath, segments_of_path (by decide) h (by decide)]
    rfl
  | entity segment =>
    have hpath : (Route.entity segment).path = "/" ++ "entities" ++ "/" ++ segment ++ "/" ++
        "authorizations" := by
      simp [path, ← String.toList_inj]
    rw [ofPath?, hpath, segments_of_path (by decide) h (by decide)]
    rfl
  | mine => decide +kernel

end Route

/-- A principal who asks for a route by GET gets the answer of the route. -/
theorem Service.respond_route {secret : String} {now : Instant} {r : Request}
    {principal : Principal} (h : r.Identifies secret now principal) (hget : r.method = "GET")
    {route : Route} (hpath : r.uri.path = route.path) (hplain : route.Plain) (source : Source) :
    respond ⟨secret, source⟩ now r = route.answer source principal r := by
  have hprincipal := (principal?_eq_some_iff secret now r principal).2 h
  simp only [respond, hpath, route.isHealth_path, hprincipal, Route.ofPath?_path hplain, hget]
  rfl

end Web

end OrgAccess
