import ControlPlane.Proofs.Url.Base
import ControlPlane.Proofs.Url.Query

/-!
Places below an address, by the segments of their paths. Plain segments can be told from the target
that they lead to.
-/
namespace ControlPlane.Url

/-- The path of a place. -/
def below (segments : List String) : String := String.ofList (joined (segments.map String.toList))

def ArePlain (segments : List String) : Prop := ∀ s ∈ segments, IsPlain s.toList

theorem arePlain_of_all {segments : List String}
    (h : segments.all fun s => s.toList ≠ [] ∧ s.toList.all isPlainChar) : ArePlain segments := by
  intro s hs
  have hplain := of_decide_eq_true (List.all_eq_true.mp h s hs)
  exact isPlain_of_all hplain.1 hplain.2

/-- The target of a place below an address. -/
def targetAt (place : List Char) (segments : List String) : String :=
  String.ofList (rootOf place) ++ below segments

namespace ArePlain
variable {ss ts : List String}

theorem append (hs : ArePlain ss) (ht : ArePlain ts) : ArePlain (ss ++ ts) :=
  List.forall_mem_append.mpr ⟨hs, ht⟩

theorem take (h : ArePlain ss) (n : Nat) : ArePlain (ss.take n) :=
  fun s hs => h s (List.mem_of_mem_take hs)

theorem drop (h : ArePlain ss) (n : Nat) : ArePlain (ss.drop n) :=
  fun s hs => h s (List.mem_of_mem_drop hs)

theorem map_toList (h : ArePlain ss) : ∀ s ∈ ss.map String.toList, IsPlain s :=
  List.forall_mem_map.mpr h

theorem below_injective (hs : ArePlain ss) (ht : ArePlain ts) (h : below ss = below ts) :
    ss = ts := by
  have hjoined : joined (ss.map String.toList) = joined (ts.map String.toList) :=
    String.ofList_injective h
  have hpieces : Text.pieces isSlash [] ++ ss.map String.toList =
      Text.pieces isSlash [] ++ ts.map String.toList := by
    rw [← pieces_append_joined [] hs.map_toList, ← pieces_append_joined [] ht.map_toList, hjoined]
  exact List.map_injective_iff.mpr (fun _ _ => String.toList_inj.mp)
    (List.append_cancel_left hpieces)

theorem targetAt_injective {place : List Char} (hs : ArePlain ss) (ht : ArePlain ts)
    (h : targetAt place ss = targetAt place ts) : ss = ts :=
  hs.below_injective ht (String.append_right_inj _ |>.mp h)

theorem target?_below {base : String} {scheme authority place : List Char}
    (hbase : IsBase base scheme authority place) (hne : ss ≠ []) (h : ArePlain ss) :
    target? (base ++ below ss) [] = some (targetAt place ss) :=
  target?_of_isBase hbase (by simpa using hne) h.map_toList String.toList_ofList

/-- A place is told from a target with a query as well. -/
theorem pathOf_targetAt (place : List Char) (hne : ss ≠ []) (h : ArePlain ss) :
    pathOf (targetAt place ss) = (targetAt place ss).toList := by
  have hpath : targetAt place ss =
      String.ofList (path (place ++ joined (ss.map String.toList)) ++ tail none) := by
    rw [path_append_joined place (by simpa using hne) h.map_toList, tail, List.append_nil,
      String.ofList_append]
    rfl
  rw [hpath, pathOf_path_tail, tail, List.append_nil, String.toList_ofList]

theorem pathOf_of_target?_below {base target : String} {scheme authority place : List Char}
    (hbase : IsBase base scheme authority place) (hne : ss ≠ []) (h : ArePlain ss)
    {params : List (String × String)} (htarget : target? (base ++ below ss) params = some target) :
    pathOf target = (targetAt place ss).toList := by
  obtain ⟨target', htarget', hpath, -⟩ := target?_params (h.target?_below hbase hne) params
  obtain rfl := Option.some.inj (htarget.symm.trans htarget')
  rw [hpath, h.pathOf_targetAt place hne]

end ArePlain
end ControlPlane.Url
