import ControlPlane.Proofs.Json.Text
import ControlPlane.Proofs.Upsert.Actions

/-!
A control plane in memory. It keeps the bodies that are put, and tells them as compact text.
-/
namespace ControlPlane

open Upsert (Object)

namespace UpsertKind

/-- What is put holds texts and truth values only. -/
theorem numberless_wrap (kind : UpsertKind) {s : kind.State} {body : Json}
    (h : kind.body s = .ok body) : (kind.wrap body).Numberless := by
  cases kind with
  | dataLabel =>
    obtain ⟨d, -, rfl⟩ := map_eq_ok_iff.mp h
    have htags : (Json.strings d.tags).Numberless := by
      refine .arr fun j hj => ?_
      obtain ⟨tag, -, rfl⟩ := List.mem_map.mp hj
      exact .str tag
    have hrule (r : DataLabel.Rule) : r.toJson.Numberless :=
      .obj (by simp only [List.forall_mem_cons]; exact ⟨.str _, .str _, .str _, by simp⟩)
    refine .obj fun m hm => ?_
    rcases List.mem_append.mp hm with hm | hm
    · simp only [List.mem_cons, List.not_mem_nil, or_false] at hm
      rcases hm with rfl | rfl
      · exact .str _
      · exact htags
    · cases hr : d.rule with
      | none =>
        rw [hr] at hm
        cases hm
      | some r =>
        rw [hr] at hm
        rw [List.mem_singleton.mp hm]
        exact hrule r
  | authSettings =>
    obtain ⟨a, -, rfl⟩ := map_eq_ok_iff.mp h
    have hbody : a.toJson.Numberless := by
      refine .obj ?_
      simp only [List.forall_mem_cons]
      exact ⟨.bool _, .str _, .str _, .str _, by simp⟩
    exact .obj (by simpa only [List.forall_mem_singleton] using hbody)

end UpsertKind

namespace Http

/-- Authentication settings are told in a record of their own, below the path of a repository. -/
def tellAt (root target : String) (body : Json) : Json :=
  if (root ++ "/v1/repos/").toList <+: target.toList then .obj [("authInfo", body)] else body

/-- Grants one token to whoever asks, and keeps what is put at each target. -/
def keeper (root : String) : Server := fun log r =>
  match r.method with
  | .post => .complete 200 (Text.utf8 "\x7b\"access_token\":\"t\"\x7d".toList)
  | .get =>
    match heldAt r.target log with
    | some body => .complete 200 (Text.utf8 (tellAt root r.target body).compactChars)
    | none => .complete .notFound []
  | .delete => .complete (if (heldAt r.target log).isSome then 200 else .notFound) []
  | _ => .complete 200 []

theorem tellAt_path (root : String) (o : Object) (body : Json) :
    tellAt root (root ++ o.path) body = o.kind.wrap body := by
  obtain ⟨kind, name⟩ := o
  unfold tellAt
  simp only [String.toList_append, List.prefix_append_right_inj]
  cases kind with
  | dataLabel =>
    have hpath : (Object.path ⟨.dataLabel, name⟩) = "/v1/datalabels/" ++ name := rfl
    rw [hpath, if_neg (by simp)]
    rfl
  | authSettings =>
    have hpath : (Object.path ⟨.authSettings, name⟩) = "/v1/repos/" ++ (name ++ "/conf/auth") :=
      String.append_assoc ..
    rw [hpath, String.toList_append, if_pos (List.prefix_append _ _)]
    rfl

end Http

namespace Connection
variable {client : Client}

theorem keeper_keepsBodies {scheme authority place : List Char}
    (hbase : Url.IsBase client.baseUrl scheme authority place) (valid : Token → Prop) :
    Connection.KeepsBodies ⟨client, Http.keeper (String.ofList (Url.rootOf place))⟩ valid where
  put _ _ _ _ _ := ⟨200, [], rfl, rfl⟩
  get {o target token} ho ht _ {log s body} hs hheld := by
    obtain rfl := Option.some.inj (ht.symm.trans (Upsert.exists_target hbase ho))
    obtain ⟨told, hparse, hsame⟩ := Json.exists_parse?_compactChars (o.kind.numberless_wrap hs)
    refine ⟨200, Text.utf8 (o.kind.wrap body).compactChars, ?_, rfl, told, hparse, hsame⟩
    simp only [Http.keeper, authorized, hheld, Http.tellAt_path]
  delete {_ _ _} _ _ _ {_} hheld := ⟨200, [], by simp [Http.keeper, authorized, hheld], rfl⟩
  missing {_ _ _} _ _ _ {_} hheld {_} hm := by
    refine ⟨[], ?_⟩
    rcases hm with rfl | rfl <;> simp [Http.keeper, authorized, hheld]

theorem keeper_grants {root tokenTarget : String}
    (hreached : Url.target? client.tokens.url [] = some tokenTarget) :
    Connection.Grants ⟨client, Http.keeper root⟩ (fun token => token.secret = "t") tokenTarget :=
  grants_of_server hreached fun _ => rfl

end Connection
end ControlPlane
