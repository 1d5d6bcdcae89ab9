import Mathlib.Data.List.Basic
import UrlRouter.Dispatch.CacheHeaders
import UrlRouter.Dispatch.CachedResponse
import UrlRouter.Proofs.Http.Headers
import UrlRouter.Proofs.Json.Reading

/-!
A captured response is read back from its text, and its replay gives the captured status and, for
each name with captured headers, their values in the place of the old ones.
-/

namespace UrlRouter

namespace CachedResponse

def headerDocument (h : String × String) : Document := .arr [.str h.1, .str h.2]

theorem document_toJson (c : CachedResponse) :
    c.toJson.document = .obj
      [("status", .int c.status), ("headers", .arr (c.headers.map headerDocument)),
        ("output", .str c.output)] := by
  have hheaders : ∀ hs : List (String × String),
      Json.documents (hs.map fun h => .arr [.str h.1, .str h.2]) = hs.map headerDocument := by
    intro hs
    induction hs with
    | nil => rfl
    | cons h hs ih =>
      rw [List.map_cons, Json.documents, ih]
      rfl
  simp only [toJson, Json.document, Json.documentFields]
  exact congrArg (fun headers => Document.obj
    [("status", .int c.status), ("headers", .arr headers), ("output", .str c.output)])
    (hheaders c.headers)

theorem mapM_headerDocument (hs : List (String × String)) :
    (hs.map headerDocument).mapM header? = some hs := by
  induction hs with
  | nil => rfl
  | cons h hs ih =>
    rw [List.map_cons, List.mapM_cons, ih]
    rfl

theorem nat16?_int {n : Nat} (h : n < Nat.pow 2 16) : Document.nat16? (.int n) = some n := by
  have hrange : (0 : Int) ≤ n ∧ (n : Int) < Nat.pow 2 16 :=
    ⟨Int.natCast_nonneg n, Int.ofNat_lt.2 h⟩
  rw [Document.nat16?, if_pos hrange, Int.toNat_natCast]

theorem readableElements_headers (headers : List (String × String)) :
    Json.ReadableElements 2 (headers.map fun (name, value) => .arr [.str name, .str value]) := by
  induction headers with
  | nil => trivial
  | cons h headers ih => exact ⟨⟨by decide, trivial, trivial, trivial⟩, ih⟩

theorem readable_toJson {c : CachedResponse} (h : c.status < Nat.pow 2 16) :
    c.toJson.Readable 0 := by
  have hstatus : Json.Fits64 c.status := by
    simp only [Json.Fits64, Nat.pow_eq] at h ⊢
    omega
  exact ⟨by decide, hstatus, ⟨by decide, readableElements_headers c.headers⟩, trivial, trivial⟩

theorem ofDocument?_record {status headers output : Document} {c : CachedResponse}
    (hstatus : status.nat16? = some c.status)
    (hheaders : headers.elements? header? = some c.headers)
    (houtput : output.string? = some c.output) :
    ofDocument? (.obj [("status", status), ("headers", headers), ("output", output)]) =
      some c := by
  have hrecord : Document.record? ["status", "headers", "output"]
      (.obj [("status", status), ("headers", headers), ("output", output)]) =
        some [("status", status), ("headers", headers), ("output", output)] := by
    simp [Document.record?]
  rw [ofDocument?, hrecord]
  simp only [Option.bind_eq_bind, Option.bind_some, Document.field?, String.reduceEq, if_true,
    if_false, hstatus, hheaders, houtput]

theorem read?_text {c : CachedResponse} (h : c.status < Nat.pow 2 16) : read? c.text = some c := by
  rw [read?, text, Json.readDocument_text (readable_toJson h), Option.bind_some, document_toJson]
  exact ofDocument?_record (nat16?_int h) (mapM_headerDocument c.headers) rfl

theorem read?_capture (res : Response) (output : String) :
    read? (capture res output).text = some (capture res output) := by
  have hstatus : (capture res output).status < Nat.pow 2 16 :=
    Nat.lt_trans res.status.code_mem.2 (by decide)
  exact read?_text hstatus

theorem validHeaders_capture {res : Response} (h : res.headers.Textual) (output : String) :
    (capture res output).validHeaders = res.headers.entries := by
  have hcaptured : (capture res output).headers = res.headers.entries :=
    List.filter_eq_self.2 fun f hf => (h.of_mem_entries hf).2
  rw [validHeaders, hcaptured]
  refine (List.filterMap_congr fun f hf => ?_).trans List.filterMap_some
  obtain ⟨hname, hvalue⟩ := h.of_mem_entries hf
  simp only [hname, Headers.isValue_of_isText hvalue, if_true]

theorem status_replay_capture (res target : Response) (output : String) :
    ((capture res output).replay target).status = res.status := by
  have hstatus : Status.of? (capture res output).status = some res.status :=
    Status.of?_eq_some_iff.2 rfl
  simp only [replay, hstatus, Option.getD_some]

theorem values_replay_capture {res : Response} (h : res.headers.Textual) (output : String)
    (target : Response) (name : String) :
    ((capture res output).replay target).headers.values name =
      if res.headers.values name = [] then target.headers.values name
      else res.headers.values name := by
  -- A name is removed from the target exactly when there are captured values to put in.
  have hmem : name ∈ res.headers.entries.map (·.1) ↔ res.headers.values name ≠ [] := by
    rw [List.mem_map]
    constructor
    · rintro ⟨f, hf, rfl⟩
      exact List.ne_nil_of_mem (Headers.mem_entries_iff.1 hf)
    · intro hne
      obtain ⟨v, hv⟩ := List.exists_mem_of_ne_nil _ hne
      exact ⟨(name, v), Headers.mem_entries_iff.2 hv, rfl⟩
  rw [replay, validHeaders_capture h, Headers.values_appendAll, Headers.values_removeAll,
    Headers.filter_entries]
  by_cases hvalues : res.headers.values name = []
  · rw [if_neg fun hin => hmem.1 hin hvalues, if_pos hvalues, hvalues, List.append_nil]
  · rw [if_pos (hmem.2 hvalues), if_neg hvalues, List.nil_append]

theorem replay_of_read?_text {res : Response} (h : res.headers.Textual) (body : String) :
    ∃ entry, read? (capture res body).text = some entry ∧ entry.output = body ∧
      ∀ target : Response, (entry.replay target).status = res.status ∧
        ∀ name, (entry.replay target).headers.values name =
          if res.headers.values name = [] then target.headers.values name
          else res.headers.values name := by
  refine ⟨capture res body, read?_capture res body, rfl, fun target => ⟨?_, fun name => ?_⟩⟩
  · exact status_replay_capture res target body
  · exact values_replay_capture h body target name

theorem replay_of_read?_text_quoted :
    let res : Response :=
      ⟨.notFound, (Headers.empty.append "x-a" "1").append "x-a" "say \"hi\"\t"⟩
    let target : Response := ⟨.ok, (Headers.empty.append "x-a" "old").append "x-b" "kept"⟩
    let body := "\"\\\n\x01é\""
    res.headers.Textual ∧ ∃ entry, read? (capture res body).text = some entry ∧
      entry.output = body ∧ (entry.replay target).status = .notFound ∧
      (entry.replay target).headers.values "x-a" = ["1", "say \"hi\"\t"] ∧
      (entry.replay target).headers.values "x-b" = ["kept"] := by
  intro res target body
  have htextual : res.headers.Textual := by
    intro name value hvalue
    have hentries : ∀ f ∈ res.headers.entries,
        Headers.name? f.1 = some f.1 ∧ Headers.isText f.2 = true := by decide +kernel
    exact hentries (name, value) (Headers.mem_entries_iff.2 hvalue)
  obtain ⟨entry, hread, houtput, hreplay⟩ := replay_of_read?_text htextual body
  obtain ⟨hstatus, hvalues⟩ := hreplay target
  refine ⟨htextual, entry, hread, houtput, hstatus, ?_, ?_⟩
  · rw [hvalues]
    decide +kernel
  · rw [hvalues]
    decide +kernel

end CachedResponse

namespace Headers

theorem isText_expiresText (now : Instant) (ttl : Duration) :
    isText (expiresText now ttl) = true := by
  have hmoment (t u : Instant) :
      isText (((t.dateTime?.map DateTime.httpText).or (u.dateTime?.map DateTime.httpText)).getD
        "") = true := by
    cases t.dateTime? with
    | some d => exact isText_httpText d
    | none =>
      cases u.dateTime? with
      | some d => exact isText_httpText d
      | none => rfl
  exact hmoment _ _

theorem textual_cacheHeaders (now : Instant) (ttl : Duration) :
    ∀ f ∈ cacheHeaders now ttl, name? f.1 = some f.1 ∧ isText f.2 = true := by
  have hnames : name? "cache-control" = some "cache-control" ∧ name? "expires" = some "expires" ∧
      name? "pragma" = some "pragma" ∧ name? "vary" = some "vary" := by decide +kernel
  have hage : isText ("public, max-age=" ++ String.ofList (natText ttl.capped.seconds)) = true := by
    have hdigits : isText (String.ofList (natText ttl.capped.seconds)) = true :=
      isText_ofList fun _ hc => .inl (isDigit_of_mem_natText hc)
    have hkind : isText "public, max-age=" = true := by decide
    rw [isText_append, hkind, hdigits, Bool.and_self]
  intro f hf
  simp only [cacheHeaders, List.mem_cons, List.not_mem_nil, or_false] at hf
  obtain ⟨hcontrol, hexpires, hpragma, hvary⟩ := hnames
  rcases hf with rfl | rfl | rfl | rfl
  · exact ⟨hcontrol, hage⟩
  · exact ⟨hexpires, isText_expiresText _ _⟩
  · exact ⟨hpragma, by decide⟩
  · exact ⟨hvary, by decide⟩

end Headers

theorem Response.textual_withCacheHeaders {res : Response} (h : res.headers.Textual)
    (now : Instant) (ttl : Duration) : (res.withCacheHeaders now ttl).headers.Textual :=
  h.insertAll (Headers.textual_cacheHeaders now ttl)

end UrlRouter
