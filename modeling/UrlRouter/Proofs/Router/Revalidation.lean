import UrlRouter.Proofs.Calendar.Text
import UrlRouter.Proofs.Decimal.Integer
import UrlRouter.Proofs.Router.Query
import UrlRouter.Proofs.Router.Resolution

/-!
Values of inputs as raw parameters. The text of a value is valid for its type again and has the same
value, so what came in with a request comes in again with the address made from it.
-/

namespace UrlRouter

open Text Unicode

theorem Date.trim_text (d : Date) : trim d.text = d.text :=
  trim_eq_self fun _ hc => d.isWhiteSpace_of_mem_text hc

theorem readBool?_text (b : Bool) : readBool? (trim (Json.bool b).text.toList) = some b := by
  cases b <;> decide

theorem InputType.exists_text_parse? {t : InputType} (ht : t ≠ .float) {raw : String} {v : Json}
    (h : t.parse? raw = some v) : ∃ text, v.valueText? = some text ∧ t.parse? text = some v := by
  cases t with
  | string =>
    cases h
    exact ⟨raw, rfl, rfl⟩
  | int =>
    obtain ⟨n, hn, rfl⟩ := Option.map_eq_some_iff.1 h
    obtain ⟨hlow, hhigh⟩ := bounds_of_int64? hn
    refine ⟨_, rfl, ?_⟩
    rw [parse?, Json.text, String.toList_ofList]
    change (int64? (trim (intText n))).map Json.int = some (.int n)
    rw [trim_intText, int64?_intText hlow hhigh, Option.map_some]
  | float => exact absurd rfl ht
  | bool =>
    obtain ⟨b, _, rfl⟩ := Option.map_eq_some_iff.1 h
    refine ⟨_, rfl, ?_⟩
    change (readBool? (trim (Json.bool b).text.toList)).map Json.bool = some (.bool b)
    rw [readBool?_text, Option.map_some]
  | date =>
    obtain ⟨d, _, rfl⟩ := Option.map_eq_some_iff.1 h
    refine ⟨_, rfl, ?_⟩
    rw [parse?, String.toList_ofList]
    rw [d.trim_text, date?_text, Option.map_some]
  | pattern regex =>
    rw [parse?] at h
    split at h
    · next hmatch =>
      cases h
      exact ⟨raw, rfl, if_pos hmatch⟩
    · cases h

theorem SimpleRequest.field?_of_post_eq_nil {req : SimpleRequest} (h : req.post = [])
    (name : String) : req.toRequest.field? name = Form.find? req.query name := by
  have hnone : req.toRequest.post? name = none := by
    change Form.find? req.post name = none
    rw [h]
    rfl
  rw [Request.field?, hnone, Option.none_or, ite_self]
  rfl

theorem Router.field?_new_urlFor {φ : Type} {r : Router φ} {name locale : String} {data : Args}
    {link : Link} {route : Route φ} (hroute : r.route? name = some route)
    (hlink : r.urlFor name data locale = .ok link) (hpath : '?' ∉ link.path.toList) (m : Method)
    {n text : String} {v : Json} (hv : route.Queries data n v) (htext : v.valueText? = some text) :
    (SimpleRequest.new m link.text).toRequest.field? n = some text := by
  obtain ⟨pairs, hpairs, hnew⟩ := exists_new_urlFor hroute hlink hpath m
  rw [hnew, SimpleRequest.field?_of_post_eq_nil rfl]
  exact (route.find?_queryPairs_eq_some_iff hpairs).2 ⟨v, hv, htext⟩

theorem InputType.parse?_text_of_parse? {t : InputType} (ht : t ≠ .float) {raw : String} {v : Json}
    (h : t.parse? raw = some v) :
    (∃ text, v.valueText? = some text ∧ t.parse? text = some v) ∧
      ∀ {φ : Type} (r : Router φ) (route : Route φ) (i : Input) (name locale : String) (data : Args)
        (link : Link) (m : Method), r.route? name = some route → i ∈ route.settings.inputs →
        i.type = t → i.name ∉ route.compiled.names → data.get? i.name = some v →
        r.urlFor name data locale = .ok link → '?' ∉ link.path.toList →
        i.value? (SimpleRequest.new m link.text).toRequest = some v := by
  obtain ⟨text, htext, hparse⟩ := exists_text_parse? ht h
  refine ⟨⟨text, htext, hparse⟩,
    fun r route i name locale data link m hroute hi htype hunused hgiven hlink hpath => ?_⟩
  have hpresent : v ≠ .null := by
    rintro rfl
    cases htext
  have hfield := Router.field?_new_urlFor hroute hlink hpath m
    ⟨⟨i, hi, rfl⟩, hunused, hgiven, hpresent⟩ htext
  rw [Input.value?, hfield, Option.bind_some, htype, hparse]

theorem InputType.parse?_text_of_parse?_sparse :
    let inputs : List Input := [⟨"since", .date, true⟩, ⟨"delta", .int, false⟩]
    let settings : RouteSettings Unit := .withHandler .empty (.func ())
    let list : RouteDefinition Unit :=
      ⟨some (.named "list"), "/list", { settings with inputs := inputs }⟩
    let r := (Router.empty.insert (.route list)).1
    let data : Args :=
      .ofList [("since", .str "+12024-02-09"), ("delta", .int (-9223372036854775808))]
    InputType.date.parse? " +12024-2- 9" = some (.str "+12024-02-09") ∧
      InputType.date.parse? "+12024-02-09" = some (.str "+12024-02-09") ∧
      InputType.int.parse? "-009223372036854775808\n" = some (.int (-9223372036854775808)) ∧
      ∃ link, r.urlFor "list" data "en" = .ok link ∧
        link.text = "/list?since=%2B12024-02-09&delta=-9223372036854775808" ∧
        ∀ m, Input.value? ⟨"since", .date, true⟩ (SimpleRequest.new m link.text).toRequest =
            some (.str "+12024-02-09") ∧
          Input.value? ⟨"delta", .int, false⟩ (SimpleRequest.new m link.text).toRequest =
            some (.int (-9223372036854775808)) := by
  intro inputs settings list r data
  have hdate : InputType.date.parse? " +12024-2- 9" = some (.str "+12024-02-09") := by
    have hread : (date? (trim " +12024-2- 9".toList)).map (fun d => String.ofList d.text) =
        some "+12024-02-09" := by
      decide +kernel
    rw [InputType.parse?]
    simpa using congrArg (Option.map Json.str) hread
  have hint : InputType.int.parse? "-009223372036854775808\n" =
      some (.int (-9223372036854775808)) := by
    have hread : int64? (trim "-009223372036854775808\n".toList) = some (-9223372036854775808) := by
      decide +kernel
    rw [InputType.parse?]
    exact congrArg (Option.map Json.int) hread
  have hroute : (r.route? "list").map (fun route => (route.compiled.names,
      route.settings.inputs.map fun i => (i.name, i.mandatory, i.type.ctorIdx))) =
        some ([], inputs.map fun i => (i.name, i.mandatory, i.type.ctorIdx)) := by
    decide +kernel
  have hlink : (r.urlFor "list" data "en").toOption.map (fun link => (link.path, link.text)) =
      some ("/list", "/list?since=%2B12024-02-09&delta=-9223372036854775808") := by
    decide +kernel
  obtain ⟨route, hroute, hparts⟩ := Option.map_eq_some_iff.1 hroute
  obtain ⟨hunused, hinputs⟩ := Prod.mk.inj hparts
  obtain ⟨link, hlink, htexts⟩ := Option.map_eq_some_iff.1 hlink
  obtain ⟨hpath, htext⟩ := Prod.mk.inj htexts
  have hlink := Except.eq_ok_of_toOption hlink
  have hquestion : '?' ∉ link.path.toList := by
    rw [hpath]
    decide
  have hsince : ⟨"since", .date, true⟩ ∈ route.settings.inputs := by
    obtain ⟨⟨n, t, b⟩, rest, hcons, heq, _⟩ := List.map_eq_cons_iff.1 hinputs
    rw [hcons]
    cases t <;> cases heq
    exact List.mem_cons_self
  have hdelta : ⟨"delta", .int, false⟩ ∈ route.settings.inputs := by
    obtain ⟨first, rest, hcons, _, hrest⟩ := List.map_eq_cons_iff.1 hinputs
    obtain ⟨⟨n, t, b⟩, rest, hcons', heq, _⟩ := List.map_eq_cons_iff.1 hrest
    rw [hcons, hcons']
    cases t <;> cases heq
    exact List.mem_cons_of_mem first List.mem_cons_self
  obtain ⟨⟨text, htext', hagain⟩, hsinceValue⟩ := parse?_text_of_parse? (by nofun) hdate
  obtain ⟨_, hdeltaValue⟩ := parse?_text_of_parse? (by nofun) hint
  cases htext'
  exact ⟨hdate, hagain, hint, link, hlink, htext, fun m =>
    ⟨hsinceValue r route _ "list" "en" data link m hroute hsince rfl (by simp [hunused]) rfl hlink
        hquestion,
      hdeltaValue r route _ "list" "en" data link m hroute hdelta rfl (by simp [hunused]) rfl hlink
        hquestion⟩⟩

end UrlRouter
