import CatalogSearch.Proofs.Restriction
/-!
The requests that are refused. `ListRequest.refusals` are the errors a request gives cause for, by the
parameters alone and in the order of their precedence. The main statement is `plan_refuses`: on a resource that
is searched a request is planned unless there is such a cause, the first one is the error, and it is always the
caller's.
-/
namespace CatalogSearch

def failure? {ε α : Type} : Except ε α → Option ε
  | .ok _ => none
  | .error e => some e

theorem failure?_eq_some_iff {ε α : Type} {x : Except ε α} {e : ε} :
    failure? x = some e ↔ x = .error e := by
  cases x <;> simp [failure?]

/-- What comes second fails only where what comes first does not. -/
theorem failure?_bind {ε α β : Type} {x : Except ε α} {f : α → Except ε β} {next : Option ε}
    (h : ∀ a, x = .ok a → failure? (f a) = next) : failure? (x >>= f) = (failure? x).or next := by
  cases x with
  | error e => rfl
  | ok a => exact h a rfl

theorem failure?_bind_pure {ε α β : Type} (x : Except ε α) (f : α → β) :
    failure? (x >>= fun a => pure (f a)) = failure? x := by
  cases x <;> rfl

theorem failure?_liftFilter {α : Type} (x : Except FilterError α) :
    failure? (ServiceError.liftFilter x) = (failure? x).map fun e => .validation (.filter e) := by
  cases x <;> rfl

namespace SortField

theorem failure?_ofSegment (raw : List Char) :
    failure? (ofSegment raw) = if Text.trim raw == ['-'] then some (.sort (String.ofList raw)) else none := by
  match htrim : Text.trim raw with
  | [] => simp [ofSegment, htrim, failure?, pure, Except.pure]
  | c :: rest =>
    by_cases hc : c = '-'
    · subst hc
      match hrest : Text.trim rest with
      | [] =>
        have hnil : rest = [] := Text.eq_nil_of_trim_eq_cons htrim hrest
        subst hnil
        simp [ofSegment, htrim, hrest, failure?, throw, throwThe, MonadExceptOf.throw]
      | d :: name =>
        have hcons : rest ≠ [] := by
          rintro rfl
          cases hrest
        simp [ofSegment, htrim, hrest, hcons, failure?, pure, Except.pure]
    · have hasc : ofSegment raw = pure (some (asc (String.ofList (c :: rest)))) := by
        simp [ofSegment, htrim, hc]
      simp [hasc, hc, failure?, pure, Except.pure]

theorem failure?_ofSegments (segments : List (List Char)) :
    failure? (ofSegments segments) =
      ((segments.filter fun segment => Text.trim segment == ['-']).map fun segment =>
        FilterError.sort (String.ofList segment)).head? := by
  induction segments with
  | nil => rfl
  | cons segment rest ih =>
    have hrest : failure? (ofSegments (segment :: rest)) =
        (failure? (ofSegment segment)).or (failure? (ofSegments rest)) :=
      failure?_bind fun _ _ => failure?_bind_pure _ _
    rw [hrest, ih, failure?_ofSegment, List.filter_cons]
    split <;> rfl

end SortField

namespace ListRequest

def last? (r : ListRequest) (keys : List String) : Option String :=
  (r.items.filter fun item => keys.contains item.1).getLast?.map Prod.snd

def sizeText? (r : ListRequest) : Option String := r.last? ["page[size]", "size"]

def numberText? (r : ListRequest) : Option String := r.last? ["page[number]", "number"]

def pageSize? (s : SearchSettings) (r : ListRequest) : Option UInt64 :=
  r.sizeText?.elim (some (max s.defaultPageSize 1)) Page.positive?

def asks (r : ListRequest) : Bool :=
  ((r.get? "q").any fun text => !Text.isBlankText text) ||
    ((r.get? "filter").bind Json.read?).any fun value => !Selection.asksNothing value

def pageRefusal (name : String) (text : Option String) : List ServiceError :=
  match text with
  | some raw => if (Page.positive? raw).isNone then [.validation (.filter (.page name raw))] else []
  | none => []

def bareDashes (r : ListRequest) : List (List Char) :=
  ((r.get? "sort").elim [] fun text => text.toList.splitOn ',').filter fun segment =>
    Text.trim segment == ['-']

/-- What is looked at in every request to a resource that is searched. -/
def textRefusals (r : ListRequest) : List ServiceError :=
  (if 1 < (r.values "q").length then [.validation (.filter (.repeatedParameter "q"))] else []) ++
  (if 1 < (r.values "filter").length then [.validation (.filter (.repeatedParameter "filter"))] else []) ++
  (if (r.get? "filter").any fun text => (Json.read? text).isNone then [.validation (.filter .notJson)] else [])

/-- What is looked at once there is something to search by. -/
def searchRefusals (s : SearchSettings) (r : ListRequest) : List ServiceError :=
  pageRefusal "size" r.sizeText? ++
  pageRefusal "number" r.numberText? ++
  ((r.pageSize? s).toList.filter fun size => s.maxPageSize < size).map
    (fun size => .tooCostly size s.maxPageSize) ++
  (if 1 < (r.values "sort").length then [.validation .repeatedSort] else []) ++
  r.bareDashes.map fun segment => .validation (.filter (.sort (String.ofList segment)))

def refusals (s : SearchSettings) (r : ListRequest) : List ServiceError :=
  r.textRefusals ++ if r.asks then r.searchRefusals s else []

theorem failure?_selection (r : ListRequest) : failure? r.selection = r.textRefusals.head? := by
  rw [selection, failure?_liftFilter, Selection.ofItems_eq, textRefusals]
  by_cases hq : 1 < (r.values "q").length
  · rw [if_pos hq, if_pos hq]
    rfl
  · rw [if_neg hq, if_neg hq]
    by_cases hfilter : 1 < (r.values "filter").length
    · rw [if_pos hfilter, if_pos hfilter]
      rfl
    · rw [if_neg hfilter, if_neg hfilter]
      split <;> rfl

theorem isActive_of_selection {r : ListRequest} {s : Selection} (h : r.selection = .ok s) :
    s.isActive = r.asks := by
  rw [Selection.eq_of_ofItems (ServiceError.liftFilter_eq_ok_iff.1 h), Selection.isActive, asks,
    Option.isSome_filter, Option.isSome_filter]

theorem lastValue_eq {isKey : String → Bool} {keys : List String}
    (h : ∀ key, isKey key = keys.contains key) (r : ListRequest) :
    Page.lastValue isKey r.items = r.last? keys := by
  rw [Page.lastValue, last?, List.getLast?_eq_head?_reverse, ← List.filter_reverse, List.head?_filter]
  simp only [h]

def pageEntry (name : String) (default : UInt64) (text : Option String) : Except FilterError UInt64 :=
  text.elim (pure default) (Page.readPositive name)

theorem ofParameters_eq (size number : Option String) (default : UInt64) :
    Page.ofParameters size number default = (do
      let size ← pageEntry "size" (max default 1) size
      let number ← pageEntry "number" 1 number
      pure ⟨number, size⟩) := by
  cases size <;> cases number <;> rfl

theorem ofItems_eq (items : List (String × String)) (default : UInt64) :
    Page.ofItems items default = Page.ofParameters (sizeText? ⟨items⟩) (numberText? ⟨items⟩) default := by
  have hsize : Page.lastValue Page.isSizeKey items = sizeText? ⟨items⟩ :=
    lastValue_eq (fun key => by simp [Page.isSizeKey, Bool.beq_eq_decide_eq]) ⟨items⟩
  have hnumber : Page.lastValue Page.isNumberKey items = numberText? ⟨items⟩ :=
    lastValue_eq (fun key => by simp [Page.isNumberKey, Bool.beq_eq_decide_eq]) ⟨items⟩
  rw [Page.ofItems, hsize, hnumber]

theorem page_eq (r : ListRequest) (default : UInt64) :
    r.page default = ServiceError.liftFilter (Page.ofParameters r.sizeText? r.numberText? default) := by
  rw [page, ofItems_eq]

theorem failure?_pageEntry (name : String) (default : UInt64) (text : Option String) :
    (failure? (pageEntry name default text)).map (fun e => .validation (.filter e)) =
      (pageRefusal name text).head? := by
  cases text with
  | none => rfl
  | some raw =>
    rw [pageEntry, Option.elim_some, Page.readPositive, pageRefusal]
    cases Page.positive? raw <;> rfl

theorem pageEntry_eq_ok_iff {name : String} {default n : UInt64} {text : Option String} :
    pageEntry name default text = .ok n ↔ text.elim (some default) Page.positive? = some n := by
  cases text with
  | none => simp [pageEntry, pure, Except.pure]
  | some raw =>
    rw [pageEntry, Option.elim_some, Option.elim_some, Page.readPositive]
    cases Page.positive? raw <;> simp [pure, Except.pure, throw, throwThe, MonadExceptOf.throw]

theorem failure?_page (r : ListRequest) (default : UInt64) :
    failure? (r.page default) =
      (pageRefusal "size" r.sizeText? ++ pageRefusal "number" r.numberText?).head? := by
  have hentries : failure? (Page.ofParameters r.sizeText? r.numberText? default) =
      (failure? (pageEntry "size" (max default 1) r.sizeText?)).or
        (failure? (pageEntry "number" 1 r.numberText?)) := by
    rw [ofParameters_eq]
    exact failure?_bind fun _ _ => failure?_bind_pure _ _
  rw [page_eq, failure?_liftFilter, hentries, Option.map_or, failure?_pageEntry, failure?_pageEntry,
    List.head?_append]

theorem size_of_page {r : ListRequest} {s : SearchSettings} {page : Page}
    (h : r.page s.defaultPageSize = .ok page) : r.pageSize? s = some page.size := by
  rw [page_eq, ServiceError.liftFilter_eq_ok_iff, ofParameters_eq] at h
  obtain ⟨size, hsize, h⟩ := Except.bind_eq_ok_iff.1 h
  obtain ⟨number, -, h⟩ := Except.bind_eq_ok_iff.1 h
  cases h
  exact pageEntry_eq_ok_iff.1 hsize

theorem failure?_sort (r : ListRequest) :
    failure? r.sort =
      ((if 1 < (r.values "sort").length then [ServiceError.validation .repeatedSort] else []) ++
        r.bareDashes.map fun segment =>
          ServiceError.validation (.filter (.sort (String.ofList segment)))).head? := by
  have hget : r.get? "sort" = (r.values "sort").head? := rfl
  rw [sort, bareDashes, hget]
  match r.values "sort" with
  | [] => rfl
  | [text] =>
    change failure? (ServiceError.liftFilter (SortField.ofSegments (text.toList.splitOn ','))) = _
    rw [failure?_liftFilter, SortField.failure?_ofSegments, ← List.head?_map, List.map_map]
    rfl
  | _ :: _ :: _ => rfl

theorem forall_mem_guarded {p : Prop} [Decidable p] {e : ServiceError} (h : e.isClientError = true) :
    ∀ e' ∈ (if p then [e] else []), e'.isClientError = true := by
  intro e' he'
  split at he'
  · rw [List.mem_singleton.1 he', h]
  · cases he'

theorem forall_mem_pageRefusal (name : String) (text : Option String) :
    ∀ e ∈ pageRefusal name text, e.isClientError = true := by
  cases text with
  | none => exact List.forall_mem_nil _
  | some raw => exact forall_mem_guarded rfl

theorem forall_mem_textRefusals (r : ListRequest) : ∀ e ∈ r.textRefusals, e.isClientError = true := by
  simp only [textRefusals, List.forall_mem_append]
  exact ⟨⟨forall_mem_guarded rfl, forall_mem_guarded rfl⟩, forall_mem_guarded rfl⟩

theorem forall_mem_searchRefusals (s : SearchSettings) (r : ListRequest) :
    ∀ e ∈ r.searchRefusals s, e.isClientError = true := by
  simp only [searchRefusals, List.forall_mem_append, List.forall_mem_map]
  refine ⟨⟨⟨⟨?size, ?number⟩, ?large⟩, ?repeated⟩, ?dash⟩
  case size => exact forall_mem_pageRefusal "size" r.sizeText?
  case number => exact forall_mem_pageRefusal "number" r.numberText?
  case large => exact fun _ _ => rfl
  case repeated => exact forall_mem_guarded rfl
  case dash => exact fun _ _ => rfl

/-- Every cause is the caller's. -/
theorem forall_mem_refusals (s : SearchSettings) (r : ListRequest) :
    ∀ e ∈ r.refusals s, e.isClientError = true := by
  rw [refusals, List.forall_mem_append]
  refine ⟨r.forall_mem_textRefusals, ?_⟩
  split
  · exact r.forall_mem_searchRefusals s
  · exact List.forall_mem_nil _

end ListRequest

namespace Catalog
variable (c : Catalog)

def searches (resource : String) : Bool := c.search.isSome && (c.entities.resolve? resource).isSome

theorem failure?_allowedPage (request : ListRequest) :
    failure? (c.allowedPage request) = (ListRequest.pageRefusal "size" request.sizeText? ++
      ListRequest.pageRefusal "number" request.numberText? ++
      ((request.pageSize? c.settings).toList.filter fun size => c.settings.maxPageSize < size).map fun size =>
        ServiceError.tooCostly size c.settings.maxPageSize).head? := by
  rw [List.head?_append, ← ListRequest.failure?_page request c.settings.defaultPageSize]
  refine failure?_bind fun page hpage => ?_
  rw [ListRequest.size_of_page hpage]
  by_cases hsize : c.settings.maxPageSize < page.size
  · have hkept : (some page.size).toList.filter (fun size => c.settings.maxPageSize < size) = [page.size] := by
      simp [hsize]
    rw [hkept, if_pos hsize]
    rfl
  · have hnone : (some page.size).toList.filter (fun size => c.settings.maxPageSize < size) = [] := by
      simp [hsize]
    rw [hnone, if_neg hsize]
    rfl

/-- Whatever the elements of the filter, only the page and the order can be refused. -/
theorem failure?_planFor {request : ListRequest} {selection : Selection}
    (h : request.selection = .ok selection) (entity : Entity) (index : String) (user : User) :
    failure? (c.planFor entity index selection request user) = (request.searchRefusals c.settings).head? := by
  have hsteps : failure? (c.planFor entity index selection request user) =
      (failure? (c.allowedPage request)).or (failure? request.sort) := by
    rw [planFor, c.restricted_of_selection h]
    change failure? (c.allowedPage request >>= _) = _
    exact failure?_bind fun _ _ => failure?_bind_pure _ _
  rw [hsteps, failure?_allowedPage, ListRequest.failure?_sort, ← List.head?_append, ListRequest.searchRefusals]
  simp only [List.append_assoc]

theorem plan_of_not_searches {resource : String} (h : c.searches resource = false) (request : ListRequest)
    (user : User) : c.plan resource request user = .ok none := by
  have hroute : c.route resource request = .ok .relational := by
    rw [route]
    cases hsearch : c.search with
    | none => rfl
    | some backend =>
      cases hresolve : c.entities.resolve? resource with
      | none => rfl
      | some target => simp [searches, hsearch, hresolve] at h
  rw [Catalog.plan, hroute]
  rfl

theorem exists_plan_of_searches {resource : String} (h : c.searches resource = true) :
    ∃ entity index, ∀ request user, c.plan resource request user = (do
      let selection ← request.selection
      if selection.isActive then
        let plan ← c.planFor entity index selection request user
        pure (some plan)
      else pure none) := by
  rw [searches, Bool.and_eq_true] at h
  obtain ⟨backend, hsearch⟩ := Option.isSome_iff_exists.1 h.1
  obtain ⟨⟨entity, index⟩, hresolve⟩ := Option.isSome_iff_exists.1 h.2
  refine ⟨entity, index, fun request user => ?_⟩
  rw [Catalog.plan, route, hsearch, hresolve]
  cases request.selection with
  | error e => rfl
  | ok selection =>
    change ((if selection.isActive then pure _ else pure _) >>= _) = if selection.isActive then _ else _
    cases selection.isActive <;> rfl

theorem failure?_plan {resource : String} (h : c.searches resource = true) (request : ListRequest)
    (user : User) :
    failure? (c.plan resource request user) = (request.refusals c.settings).head? := by
  obtain ⟨entity, index, hplan⟩ := c.exists_plan_of_searches h
  rw [hplan, ListRequest.refusals, List.head?_append, ← ListRequest.failure?_selection]
  refine failure?_bind fun selection hselection => ?_
  rw [ListRequest.isActive_of_selection hselection]
  split
  · rw [failure?_bind_pure, c.failure?_planFor hselection]
  · rfl

theorem isSome_plan {resource : String} {request : ListRequest} {user : User} {plan : Option SearchPlan}
    (h : c.searches resource = true) (hplan : c.plan resource request user = .ok plan) :
    plan.isSome = request.asks := by
  obtain ⟨entity, index, heq⟩ := c.exists_plan_of_searches h
  rw [heq] at hplan
  obtain ⟨selection, hselection, hplan⟩ := Except.bind_eq_ok_iff.1 hplan
  rw [← ListRequest.isActive_of_selection hselection]
  cases hactive : selection.isActive with
  | false =>
    rw [hactive] at hplan
    cases hplan
    rfl
  | true =>
    rw [hactive] at hplan
    obtain ⟨p, -, hplan⟩ := Except.bind_eq_ok_iff.1 hplan
    cases hplan
    rfl

/-- A request is refused where it is searched and gives cause for an error, and the first is the error. -/
theorem plan_eq_error_iff {resource : String} {request : ListRequest} {user : User} {e : ServiceError} :
    c.plan resource request user = .error e ↔
      c.searches resource = true ∧ (request.refusals c.settings).head? = some e := by
  cases h : c.searches resource with
  | false => simp [c.plan_of_not_searches h]
  | true => rw [← failure?_eq_some_iff, c.failure?_plan h, eq_self, true_and]

/-- A request is refused for the first of its causes and for nothing else, only as the caller's error, and what
the elements of a filter look like is none of them. Otherwise it is planned where it asks for something. -/
theorem plan_refuses (resource : String) (request : ListRequest) (user : User) :
    (∀ e, c.plan resource request user = .error e ↔
      c.searches resource = true ∧ (request.refusals c.settings).head? = some e) ∧
    (∀ e, c.plan resource request user = .error e → e.isClientError = true) ∧
    (∀ plan, c.plan resource request user = .ok plan →
      (plan.isSome = true ↔ c.searches resource = true ∧ request.asks = true)) ∧
    ∀ selection, request.selection = .ok selection → selection.isActive = request.asks ∧
      ∀ fields, ∃ filter, selection.compile fields = .ok filter := by
  refine ⟨fun e => c.plan_eq_error_iff, fun e he => ?_, fun plan hplan => ?_, fun selection hselection => ?_⟩
  · exact request.forall_mem_refusals c.settings e (List.mem_of_head? (c.plan_eq_error_iff.1 he).2)
  · cases h : c.searches resource with
    | false =>
      rw [c.plan_of_not_searches h] at hplan
      cases hplan
      simp
    | true => rw [c.isSome_plan h hplan, eq_self, true_and]
  · exact ⟨ListRequest.isActive_of_selection hselection, fun fields =>
      ⟨_, Selection.compile_of_ofItems (ServiceError.liftFilter_eq_ok_iff.1 hselection) fields⟩⟩

/-- The page number is looked at before the page is found too large. -/
example : ListRequest.refusals { maxPageSize := 50 } ⟨[("q", "probe"), ("number", "0"), ("size", "60")]⟩ =
    [.validation (.filter (.page "number" "0")), .tooCostly 60 50] := by cbv

example : ListRequest.refusals {} ⟨[("sort", "-"), ("filter", "null")]⟩ = [] := by cbv

end Catalog
end CatalogSearch
