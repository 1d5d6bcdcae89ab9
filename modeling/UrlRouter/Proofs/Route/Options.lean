import UrlRouter.Proofs.Entries
import UrlRouter.Proofs.Except
import UrlRouter.Route.Options

/-!
Options of routes, set one by one or all at once. A value that its key refuses is kept aside under
the key, where nothing that is set later takes its place, and validation finds it there.
-/

namespace UrlRouter.RouteOptions

variable {o o' : RouteOptions} {key : String} {value : Json}

def Refuses (key : String) (value : Json) : Prop :=
  key = urlizeKey ∧ value.asBool? = none ∨
    key = cacheKey ∧ ∀ s, value.asNat? = some s → maxCache.seconds < s

theorem cacheKey_ne_urlizeKey : cacheKey ≠ urlizeKey := by decide

inductive Effect (key : String) (value : Json) : Prop
  | refused : Refuses key value →
      (∀ o : RouteOptions, ∃ fault, o.set key value = .error ⟨key, fault⟩) → Effect key value
  | switch (on : Bool) : key = urlizeKey → ¬ Refuses key value →
      (∀ o : RouteOptions, o.set key value = .ok { o with urlize := some on }) → Effect key value
  | time {ttl : Duration} : key = cacheKey → ¬ Refuses key value → ttl.nanos ≤ maxCache.nanos →
      (∀ o : RouteOptions, o.set key value = .ok { o with cache := some ttl }) → Effect key value
  | other : key ≠ urlizeKey → key ≠ cacheKey → ¬ Refuses key value →
      (∀ o : RouteOptions, o.set key value = .ok { o with extra := o.extra.insert key value }) →
      Effect key value

theorem set_cases (key : String) (value : Json) : Effect key value := by
  by_cases hurlize : key = urlizeKey
  · cases hbool : value.asBool? with
    | none =>
      refine .refused (.inl ⟨hurlize, hbool⟩) fun o => ⟨.notBool value, ?_⟩
      rw [set, if_pos hurlize, hbool]
    | some on =>
      refine .switch on hurlize ?_ fun o => ?_
      · simp [Refuses, hbool, hurlize, cacheKey_ne_urlizeKey.symm]
      · rw [set, if_pos hurlize, hbool]
  by_cases hcache : key = cacheKey
  · cases hnat : value.asNat? with
    | none =>
      refine .refused (.inr ⟨hcache, by simp [hnat]⟩) fun o => ⟨.notSeconds value, ?_⟩
      rw [set, if_neg hurlize, if_pos hcache, hnat]
    | some s =>
      by_cases hle : s ≤ maxCache.seconds
      · have hnanos : (Duration.ofSeconds s).nanos ≤ maxCache.nanos :=
          Nat.mul_le_mul_right 1000000000 hle
        refine .time hcache ?_ hnanos fun o => ?_
        · simp [Refuses, hnat, hurlize, Nat.not_lt.2 hle]
        · simp only [set, if_neg hurlize, if_pos hcache, hnat, if_pos hle]
      · refine .refused (.inr ⟨hcache, ?_⟩) fun o => ⟨.secondsTooLong value, ?_⟩
        · simpa [hnat] using hle
        · simp only [set, if_neg hurlize, if_pos hcache, hnat, if_neg hle]
  · refine .other hurlize hcache ?_ fun o => (if_neg hurlize).trans (if_neg hcache)
    simp [Refuses, hurlize, hcache]

theorem withOption_of_set (h : o.set key value = .ok o') : o.withOption key value = o' := by
  rw [withOption, h]

theorem set_eq_ok_iff :
    o.set key value = .ok o' ↔ ¬ Refuses key value ∧ o.withOption key value = o' := by
  have hok (h : ¬ Refuses key value) : o.set key value = .ok (o.withOption key value) := by
    cases set_cases key value with
    | refused hrefused _ => exact absurd hrefused h
    | switch _ _ _ hset => rw [withOption_of_set (hset o), hset]
    | time _ _ _ hset => rw [withOption_of_set (hset o), hset]
    | other _ _ _ hset => rw [withOption_of_set (hset o), hset]
  constructor
  · intro h
    refine ⟨fun hrefused => ?_, withOption_of_set h⟩
    cases set_cases key value with
    | refused _ hset =>
      obtain ⟨fault, hfault⟩ := hset o
      cases h.symm.trans hfault
    | switch _ _ hnot _ => exact hnot hrefused
    | time _ hnot _ _ => exact hnot hrefused
    | other _ _ hnot _ => exact hnot hrefused
  · rintro ⟨h, rfl⟩
    exact hok h

theorem withOption_cases (key : String) (value : Json) :
    (∃ on, key = urlizeKey ∧
        ∀ o : RouteOptions, o.withOption key value = { o with urlize := some on }) ∨
      (∃ ttl : Duration, key = cacheKey ∧ ttl.nanos ≤ maxCache.nanos ∧
        ∀ o : RouteOptions, o.withOption key value = { o with cache := some ttl }) ∨
      ((key = urlizeKey ∨ key = cacheKey → Refuses key value) ∧
        ∀ o : RouteOptions,
          o.withOption key value = { o with extra := o.extra.insert key value }) := by
  cases set_cases key value with
  | refused hrefused hset =>
    refine .inr (.inr ⟨fun _ => hrefused, fun o => ?_⟩)
    obtain ⟨fault, hfault⟩ := hset o
    rw [withOption, hfault]
  | switch on hkey _ hset => exact .inl ⟨on, hkey, fun o => withOption_of_set (hset o)⟩
  | time hkey _ hle hset => exact .inr (.inl ⟨_, hkey, hle, fun o => withOption_of_set (hset o)⟩)
  | other hurlize hcache _ hset =>
    refine .inr (.inr ⟨?_, fun o => withOption_of_set (hset o)⟩)
    rintro (hkey | hkey)
    · exact absurd hkey hurlize
    · exact absurd hkey hcache

def KeepsRefused (o : RouteOptions) : Prop :=
  ∀ key value, key = urlizeKey ∨ key = cacheKey → o.extra.get? key = some value →
    Refuses key value

theorem KeepsRefused.empty : empty.KeepsRefused := by
  intro key value _ h
  cases h

theorem KeepsRefused.withOption (h : o.KeepsRefused) (key : String) (value : Json) :
    (o.withOption key value).KeepsRefused := by
  rcases withOption_cases key value with ⟨_, _, heq⟩ | ⟨_, _, _, heq⟩ | ⟨hrefused, heq⟩
  · rw [heq]
    exact h
  · rw [heq]
    exact h
  · rw [heq]
    intro key' value' hkey' hvalue'
    rw [Dict.get?_insert] at hvalue'
    split at hvalue'
    · next hkey =>
      cases hvalue'
      exact hkey ▸ hrefused (hkey ▸ hkey')
    · exact h key' value' hkey' hvalue'

theorem isSome_extra_withOption (key : String) (value : Json) {k : String}
    (h : (o.extra.get? k).isSome = true) :
    ((o.withOption key value).extra.get? k).isSome = true := by
  rcases withOption_cases key value with ⟨_, _, heq⟩ | ⟨_, _, _, heq⟩ | ⟨_, heq⟩
  · rwa [heq]
  · rwa [heq]
  · rw [heq, Dict.get?_insert]
    split
    · rfl
    · exact h

theorem extra_withOption_of_refuses (h : Refuses key value) (o : RouteOptions) :
    (o.withOption key value).extra.get? key = some value := by
  cases set_cases key value with
  | refused _ hset =>
    obtain ⟨fault, hfault⟩ := hset o
    rw [RouteOptions.withOption, hfault, Dict.get?_insert, if_pos rfl]
  | switch _ _ hnot _ => exact absurd h hnot
  | time _ hnot _ _ => exact absurd h hnot
  | other _ _ hnot _ => exact absurd h hnot

def checkAside (o : RouteOptions) (key : String) : Except InvalidOption Unit :=
  match o.extra.get? key with
  | some value => (empty.set key value).map fun _ => ()
  | none => .ok ()

def checkTime (o : RouteOptions) : Except InvalidOption Unit :=
  match o.cache with
  | some ttl =>
      if maxCache.nanos < ttl.nanos then .error ⟨cacheKey, .durationTooLong ttl⟩ else .ok ()
  | none => .ok ()

theorem validate_eq (o : RouteOptions) :
    o.validate = o.checkAside urlizeKey >>= fun _ => o.checkAside cacheKey >>= fun _ =>
      o.checkTime := by
  rw [validate]
  simp only [List.forIn_cons, List.forIn_nil, checkAside]
  cases o.extra.get? urlizeKey <;> cases o.extra.get? cacheKey <;> dsimp only
  case none.none => rfl
  case none.some time => cases empty.set cacheKey time <;> rfl
  case some.none on => cases empty.set urlizeKey on <;> rfl
  case some.some on time =>
    cases empty.set urlizeKey on with
    | error _ => rfl
    | ok _ => cases empty.set cacheKey time <;> rfl

theorem checkAside_eq_ok_iff :
    o.checkAside key = .ok ⟨⟩ ↔ ∀ value, o.extra.get? key = some value → ¬ Refuses key value := by
  rw [checkAside]
  cases o.extra.get? key with
  | none => simp
  | some value => simp [Except.map_eq_ok_iff, set_eq_ok_iff]

theorem checkTime_eq_ok_iff :
    o.checkTime = .ok ⟨⟩ ↔ ∀ ttl ∈ o.cache, ttl.nanos ≤ maxCache.nanos := by
  rw [checkTime]
  cases o.cache with
  | none => simp
  | some ttl => simp

structure Valid (o : RouteOptions) : Prop where
  extra : ∀ key value, o.extra.get? key = some value → ¬ Refuses key value
  cache : ∀ ttl ∈ o.cache, ttl.nanos ≤ maxCache.nanos

theorem validate_eq_ok_iff : o.validate = .ok ⟨⟩ ↔ o.Valid := by
  rw [validate_eq, Except.bind_unit_eq_ok_iff, Except.bind_unit_eq_ok_iff, checkAside_eq_ok_iff,
    checkAside_eq_ok_iff, checkTime_eq_ok_iff]
  constructor
  · rintro ⟨hurlize, hcache, htime⟩
    refine ⟨fun key value hvalue hrefused => ?_, htime⟩
    rcases hrefused with ⟨rfl, hbad⟩ | ⟨rfl, hbad⟩
    · exact hurlize value hvalue (.inl ⟨rfl, hbad⟩)
    · exact hcache value hvalue (.inr ⟨rfl, hbad⟩)
  · intro h
    exact ⟨h.extra urlizeKey, h.extra cacheKey, h.cache⟩

theorem Valid.empty : empty.Valid where
  extra _ _ h := by cases h
  cache _ h := by cases h

theorem Valid.withOption (h : o.Valid) (hvalue : ¬ Refuses key value) :
    (o.withOption key value).Valid := by
  rcases withOption_cases key value with ⟨on, _, heq⟩ | ⟨ttl, _, hle, heq⟩ | ⟨_, heq⟩
  · rw [heq]
    exact ⟨h.extra, h.cache⟩
  · rw [heq]
    refine ⟨h.extra, fun d hd => ?_⟩
    cases hd
    exact hle
  · rw [heq]
    refine ⟨fun key' value' hkey => ?_, h.cache⟩
    rw [Dict.get?_insert] at hkey
    split at hkey
    · next hsame =>
      cases hkey
      exact hsame ▸ hvalue
    · exact h.extra key' value' hkey

def withOptions (o : RouteOptions) (es : List (String × Json)) : RouteOptions :=
  es.foldl (fun o e => o.withOption e.1 e.2) o

variable {es : List (String × Json)}

theorem KeepsRefused.withOptions (h : o.KeepsRefused) (es : List (String × Json)) :
    (o.withOptions es).KeepsRefused := by
  induction es generalizing o with
  | nil => exact h
  | cons e es ih => exact ih (h.withOption e.1 e.2)

theorem isSome_extra_withOptions {k : String} (h : (o.extra.get? k).isSome = true)
    (es : List (String × Json)) : ((o.withOptions es).extra.get? k).isSome = true := by
  induction es generalizing o with
  | nil => exact h
  | cons e es ih => exact ih (isSome_extra_withOption e.1 e.2 h)

theorem isSome_extra_of_mem (h : (key, value) ∈ es) (hvalue : Refuses key value)
    (o : RouteOptions) : ((o.withOptions es).extra.get? key).isSome = true := by
  obtain ⟨before, after, rfl⟩ := List.append_of_mem h
  rw [withOptions, List.foldl_append, List.foldl_cons]
  refine isSome_extra_withOptions ?_ after
  rw [extra_withOption_of_refuses hvalue]
  rfl

theorem valid_withOptions_iff : (empty.withOptions es).Valid ↔ ∀ e ∈ es, ¬ Refuses e.1 e.2 := by
  constructor
  · rintro h ⟨key, value⟩ hmem hrefused
    -- Something is kept under the key, and under such keys that is refused.
    obtain ⟨kept, hkept⟩ := Option.isSome_iff_exists.1 (isSome_extra_of_mem hmem hrefused empty)
    refine h.extra key kept hkept (KeepsRefused.empty.withOptions es key kept ?_ hkept)
    exact hrefused.imp And.left And.left
  · intro h
    have hfold {o : RouteOptions} (ho : o.Valid) : (o.withOptions es).Valid := by
      induction es generalizing o with
      | nil => exact ho
      | cons e es ih =>
        rw [List.forall_mem_cons] at h
        exact ih h.2 (ho.withOption h.1)
    exact hfold .empty

theorem foldlM_set_eq_ok_iff :
    es.foldlM (fun o e => o.set e.1 e.2) o = .ok o' ↔
      (∀ e ∈ es, ¬ Refuses e.1 e.2) ∧ o.withOptions es = o' := by
  induction es generalizing o with
  | nil =>
    rw [List.foldlM_nil, Except.pure_eq_ok_iff, eq_comm]
    simp [withOptions]
  | cons e es ih =>
    rw [List.foldlM_cons, Except.bind_eq_ok_iff]
    simp only [set_eq_ok_iff, ih, List.forall_mem_cons, withOptions, List.foldl_cons]
    constructor
    · rintro ⟨_, ⟨he, rfl⟩, hes, heq⟩
      exact ⟨⟨he, hes⟩, heq⟩
    · rintro ⟨⟨he, hes⟩, heq⟩
      exact ⟨_, ⟨he, rfl⟩, hes, heq⟩

theorem withOption_comm {key' : String} (hne : key ≠ key') (o : RouteOptions)
    (value value' : Json) :
    (o.withOption key value).withOption key' value' =
      (o.withOption key' value').withOption key value := by
  -- Changes of different fields commute by themselves; one field is changed twice by one key only,
  -- and so are the other options.
  rcases withOption_cases key value with ⟨_, hkey, heq⟩ | ⟨_, hkey, _, heq⟩ | ⟨_, heq⟩ <;>
    rcases withOption_cases key' value' with ⟨_, hkey', heq'⟩ | ⟨_, hkey', _, heq'⟩ | ⟨_, heq'⟩ <;>
    simp only [heq, heq']
  · exact absurd (hkey.trans hkey'.symm) hne
  · exact absurd (hkey.trans hkey'.symm) hne
  · rw [Dict.insert_comm hne]

theorem withOptions_perm {map : Dict Json} (h : es.Perm map.entries) (o : RouteOptions) :
    o.withOptions es = o.withOptions map.entries := by
  refine (h.symm.foldl_eq' (fun e he e' he' o => ?_) o).symm
  by_cases hkey : e.1 = e'.1
  · have hvalue : e.2 = e'.2 := by
      have hfound := Dict.get?_eq_some_iff.2 he
      rw [hkey, Dict.get?_eq_some_iff.2 he'] at hfound
      exact (Option.some.inj hfound).symm
    rw [hkey, hvalue]
  · exact withOption_comm hkey o e.2 e'.2

theorem ofMap_eq_ok_iff {map : Dict Json} (h : es.Perm map.entries) :
    ofMap map = .ok o ↔ (empty.withOptions es).validate = .ok ⟨⟩ ∧ o = empty.withOptions es := by
  rw [validate_eq_ok_iff, valid_withOptions_iff, ofMap, foldlM_set_eq_ok_iff, withOptions_perm h,
    eq_comm (a := o)]
  simp only [h.mem_iff]

end UrlRouter.RouteOptions
