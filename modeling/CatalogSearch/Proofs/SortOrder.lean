import CatalogSearch.Proofs.Refusal
import CatalogSearch.Proofs.Trimming
import CatalogSearch.Text.Split
/-!
Sort orders as they are written. A segment between commas says a field if it is the name of the field, after a
dash for the descending order, with blanks where they do not count. The main statement is `sort_order_reads_back`:
an order is read from every text that says it, only a dash alone is refused, two texts joined by a comma are read
one after the other, and a plan sorts by what was read with the names looked up in the aliases.
-/
namespace CatalogSearch

namespace SortField

/-- A field that can be named in a sort order. A name that starts with a dash can be sorted by in descending
order only. -/
structure Writable (f : SortField) : Prop where
  named : f.field.toList ≠ []
  comma : ',' ∉ f.field.toList
  trimmed : Text.Trimmed f.field.toList
  dash : f.descending = false → f.field.toList.head? ≠ some '-'

def written (f : SortField) : List Char := if f.descending then '-' :: f.field.toList else f.field.toList

def writtenList (fields : List SortField) : String := String.ofList ([','].intercalate (fields.map written))

/-- A segment that is a field with blanks around it and after the dash. -/
inductive Says : SortField → List Char → Prop
  | asc {name : String} {before after : List Char} (hbefore : before.all Text.isBlank = true)
      (hafter : after.all Text.isBlank = true) : Says (asc name) (before ++ name.toList ++ after)
  | desc {name : String} {before between after : List Char} (hbefore : before.all Text.isBlank = true)
      (hbetween : between.all Text.isBlank = true) (hafter : after.all Text.isBlank = true) :
      Says (desc name) (before ++ '-' :: (between ++ name.toList) ++ after)

/-- Segments that say the fields in order, with blank segments anywhere. -/
inductive SaysList : List SortField → List (List Char) → Prop
  | nil : SaysList [] []
  | blank {fields : List SortField} {segment : List Char} {segments : List (List Char)}
      (hblank : segment.all Text.isBlank = true) (hrest : SaysList fields segments) :
      SaysList fields (segment :: segments)
  | field {f : SortField} {fields : List SortField} {segment : List Char} {segments : List (List Char)}
      (hfield : Says f segment) (hrest : SaysList fields segments) :
      SaysList (f :: fields) (segment :: segments)

section Segment
variable {f : SortField} {raw : List Char}

theorem ofSegment_of_blank (h : raw.all Text.isBlank = true) : ofSegment raw = .ok none := by
  rw [← Text.trim_eq_nil_iff] at h
  rw [ofSegment, h]
  rfl

theorem ofSegment_of_name (hsome : Text.trim raw ≠ []) (hdash : (Text.trim raw).head? ≠ some '-') :
    ofSegment raw = .ok (some (asc (String.ofList (Text.trim raw)))) := by
  obtain ⟨c, rest, htrim⟩ := List.exists_cons_of_ne_nil hsome
  rw [htrim, List.head?_cons, ne_eq, Option.some_inj] at hdash
  simp [ofSegment, htrim, hdash, pure, Except.pure]

theorem ofSegment_of_dash {rest : List Char} (htrim : Text.trim raw = '-' :: rest) (hsome : Text.trim rest ≠ []) :
    ofSegment raw = .ok (some (desc (String.ofList (Text.trim rest)))) := by
  obtain ⟨c, name, hrest⟩ := List.exists_cons_of_ne_nil hsome
  simp [ofSegment, htrim, hrest, pure, Except.pure]

theorem ofSegment_of_dash_alone (h : Text.trim raw = ['-']) :
    ofSegment raw = .error (.sort (String.ofList raw)) := by
  apply failure?_eq_some_iff.1
  rw [failure?_ofSegment, h]
  rfl

theorem trimmed_dash {between name : List Char} (hsome : name ≠ []) (hname : Text.Trimmed name) :
    Text.Trimmed ('-' :: (between ++ name)) := by
  constructor
  case head =>
    intro c hc
    rw [List.head?_cons, Option.mem_some_iff] at hc
    rw [← hc]
    decide
  case last =>
    have hlast : ('-' :: (between ++ name)).getLast? = name.getLast? := by
      rw [← List.cons_append, List.getLast?_append, List.getLast?_eq_some_getLast hsome, Option.some_or]
    rw [hlast]
    exact hname.last

theorem Says.ofSegment_eq (h : Says f raw) (hf : f.Writable) : ofSegment raw = .ok (some f) := by
  cases h with
  | @asc name before after hbefore hafter =>
    have htrim : Text.trim (before ++ name.toList ++ after) = name.toList :=
      Text.trim_pad hbefore hf.trimmed hafter
    rw [ofSegment_of_name, htrim, String.ofList_toList]
    · rw [htrim]
      exact hf.named
    · rw [htrim]
      exact hf.dash rfl
  | @desc name before between after hbefore hbetween hafter =>
    have htrim : Text.trim (before ++ '-' :: (between ++ name.toList) ++ after) = '-' :: (between ++ name.toList) :=
      Text.trim_pad hbefore (trimmed_dash hf.named hf.trimmed) hafter
    have hname : Text.trim (between ++ name.toList) = name.toList := by
      have hpad := Text.trim_pad hbetween hf.trimmed List.all_nil
      rwa [List.append_nil] at hpad
    rw [ofSegment_of_dash htrim, hname, String.ofList_toList]
    rw [hname]
    exact hf.named

theorem says_asc : Says (asc (String.ofList (Text.trim raw))) raw := by
  obtain ⟨before, after, hbefore, hafter, hraw⟩ := Text.exists_pad_trim raw
  have hsaid : Says (asc (String.ofList (Text.trim raw)))
      (before ++ (String.ofList (Text.trim raw)).toList ++ after) := .asc hbefore hafter
  rwa [String.toList_ofList, ← hraw] at hsaid

/-- The blanks at the end of a segment stand after the name, whatever is trimmed first. -/
theorem says_desc {rest : List Char} (htrim : Text.trim raw = '-' :: rest) :
    Says (desc (String.ofList (Text.trim rest))) raw := by
  obtain ⟨before, after, hbefore, hafter, hraw⟩ := Text.exists_pad_trim raw
  obtain ⟨between, blank, hbetween, hblank, hrest⟩ := Text.exists_pad_trim rest
  have hend : (blank ++ after).all Text.isBlank = true := by
    rw [List.all_append, hblank, hafter, Bool.and_self]
  have hsaid : Says (desc (String.ofList (Text.trim rest)))
      (before ++ '-' :: (between ++ (String.ofList (Text.trim rest)).toList) ++ (blank ++ after)) :=
    .desc hbefore hbetween hend
  have hsame : before ++ '-' :: (between ++ Text.trim rest) ++ (blank ++ after) = raw := by
    rw [htrim, hrest] at hraw
    rw [hraw]
    simp only [List.append_assoc, List.cons_append]
  rwa [String.toList_ofList, hsame] at hsaid

theorem writable_ofList_trim {s : List Char} {descending : Bool} (hsome : Text.trim s ≠ []) (hcomma : ',' ∉ s)
    (hdash : descending = false → (Text.trim s).head? ≠ some '-') :
    Writable ⟨String.ofList (Text.trim s), descending⟩ := by
  constructor <;> rw [String.toList_ofList]
  case named => exact hsome
  case comma => exact fun hmem => hcomma (Text.mem_of_mem_trim hmem)
  case trimmed => exact Text.trimmed_trim s
  case dash => exact hdash

theorem ofSegment_cases (hcomma : ',' ∉ raw) :
    (raw.all Text.isBlank = true ∧ ofSegment raw = .ok none) ∨
      (Text.trim raw = ['-'] ∧ ofSegment raw = .error (.sort (String.ofList raw))) ∨
      ∃ f, Says f raw ∧ f.Writable ∧ ofSegment raw = .ok (some f) := by
  cases htrim : Text.trim raw with
  | nil =>
    have hblank := Text.trim_eq_nil_iff.1 htrim
    exact .inl ⟨hblank, ofSegment_of_blank hblank⟩
  | cons c rest =>
    by_cases hc : c = '-'
    · subst hc
      by_cases hrest : Text.trim rest = []
      · -- a trimmed segment does not end in a blank, so nothing but the dash is left of it
        have hdash : Text.trim raw = ['-'] := by
          rw [htrim, Text.eq_nil_of_trim_eq_cons htrim hrest]
        rw [← htrim]
        exact .inr (.inl ⟨hdash, ofSegment_of_dash_alone hdash⟩)
      · have hinner : ',' ∉ rest := by
          intro hmem
          apply hcomma
          apply Text.mem_of_mem_trim
          rw [htrim]
          exact List.mem_cons_of_mem _ hmem
        exact .inr (.inr ⟨_, says_desc htrim, writable_ofList_trim hrest hinner (by simp),
          ofSegment_of_dash htrim hrest⟩)
    · have hsome : Text.trim raw ≠ [] := by simp [htrim]
      have hdash : (Text.trim raw).head? ≠ some '-' := by simp [htrim, hc]
      exact .inr (.inr ⟨_, says_asc, writable_ofList_trim hsome hcomma fun _ => hdash,
        ofSegment_of_name hsome hdash⟩)

end Segment

section Segments
variable {fields : List SortField} {segments : List (List Char)}

theorem SaysList.ofSegments_eq (h : SaysList fields segments) (hfields : ∀ f ∈ fields, f.Writable) :
    ofSegments segments = .ok fields := by
  induction h with
  | nil => rfl
  | blank hblank hrest ih =>
    rw [ofSegments, ofSegment_of_blank hblank, ih hfields]
    rfl
  | field hfield hrest ih =>
    rw [List.forall_mem_cons] at hfields
    rw [ofSegments, hfield.ofSegment_eq hfields.1, ih hfields.2]
    rfl

theorem saysList_of_ofSegments (h : ofSegments segments = .ok fields)
    (hcomma : ∀ segment ∈ segments, ',' ∉ segment) :
    SaysList fields segments ∧ ∀ f ∈ fields, f.Writable := by
  induction segments generalizing fields with
  | nil =>
    cases h
    exact ⟨.nil, List.forall_mem_nil _⟩
  | cons segment rest ih =>
    rw [List.forall_mem_cons] at hcomma
    rw [ofSegments] at h
    obtain ⟨first, hfirst, h⟩ := Except.bind_eq_ok_iff.1 h
    obtain ⟨others, hothers, h⟩ := Except.bind_eq_ok_iff.1 h
    obtain ⟨hsaid, hwritable⟩ := ih hothers hcomma.2
    cases h
    obtain ⟨hblank, hnone⟩ | ⟨-, herror⟩ | ⟨f, hfield, hf, hsome⟩ := ofSegment_cases hcomma.1
    · rw [hnone] at hfirst
      cases hfirst
      exact ⟨.blank hblank hsaid, hwritable⟩
    · rw [herror] at hfirst
      cases hfirst
    · rw [hsome] at hfirst
      cases hfirst
      exact ⟨.field hfield hsaid, List.forall_mem_cons.2 ⟨hf, hwritable⟩⟩

theorem comma_not_mem_of_blank {s : List Char} (h : s.all Text.isBlank = true) : ',' ∉ s := by
  intro hmem
  have hblank := List.all_eq_true.1 h ',' hmem
  exact absurd hblank (by decide)

theorem Says.comma {f : SortField} {raw : List Char} (h : Says f raw) (hf : f.Writable) : ',' ∉ raw := by
  have hname := hf.comma
  cases h with
  | asc hbefore hafter =>
    simp only [List.mem_append, not_or]
    exact ⟨⟨comma_not_mem_of_blank hbefore, hname⟩, comma_not_mem_of_blank hafter⟩
  | desc hbefore hbetween hafter =>
    simp only [List.mem_append, List.mem_cons, not_or]
    exact ⟨⟨comma_not_mem_of_blank hbefore, by decide, comma_not_mem_of_blank hbetween, hname⟩,
      comma_not_mem_of_blank hafter⟩

theorem SaysList.comma (h : SaysList fields segments) (hfields : ∀ f ∈ fields, f.Writable) :
    ∀ segment ∈ segments, ',' ∉ segment := by
  induction h with
  | nil => exact List.forall_mem_nil _
  | blank hblank hrest ih => exact List.forall_mem_cons.2 ⟨comma_not_mem_of_blank hblank, ih hfields⟩
  | field hfield hrest ih =>
    rw [List.forall_mem_cons] at hfields
    exact List.forall_mem_cons.2 ⟨hfield.comma hfields.1, ih hfields.2⟩

theorem says_written (f : SortField) : Says f f.written := by
  obtain ⟨name, descending⟩ := f
  cases descending with
  | false =>
    have hsaid : Says (asc name) ([] ++ name.toList ++ []) := .asc List.all_nil List.all_nil
    rwa [List.nil_append, List.append_nil] at hsaid
  | true =>
    have hsaid : Says (desc name) ([] ++ '-' :: ([] ++ name.toList) ++ []) :=
      .desc List.all_nil List.all_nil List.all_nil
    rwa [List.nil_append, List.nil_append, List.append_nil] at hsaid

theorem saysList_written (fields : List SortField) : SaysList fields (fields.map written) := by
  induction fields with
  | nil => exact .nil
  | cons f rest ih => exact .field (says_written f) ih

theorem ofSegments_append (first second : List (List Char)) :
    ofSegments (first ++ second) = (do
      let fields ← ofSegments first
      let others ← ofSegments second
      pure (fields ++ others)) := by
  induction first with
  | nil => simp [ofSegments]
  | cons segment rest ih =>
    rw [List.cons_append, ofSegments, ih, ofSegments]
    simp only [bind_assoc, pure_bind, List.append_assoc]

end Segments

section Whole
variable {fields : List SortField} {segments : List (List Char)}

theorem SaysList.parseList_eq (h : SaysList fields segments) (hfields : ∀ f ∈ fields, f.Writable) :
    parseList (String.ofList ([','].intercalate segments)) = .ok fields := by
  rw [parseList, String.toList_ofList]
  by_cases hnil : segments = []
  · subst hnil
    cases h
    rfl
  · rw [List.splitOn_intercalate ',' (h.comma hfields) hnil, h.ofSegments_eq hfields]

theorem saysList_of_parseList {text : String} (h : parseList text = .ok fields) :
    SaysList fields (text.toList.splitOn ',') ∧ ∀ f ∈ fields, f.Writable :=
  saysList_of_ofSegments h fun _ => Text.not_mem_of_mem_splitOn

theorem parseList_eq_error_iff {text : String} {e : FilterError} :
    parseList text = .error e ↔
      ∃ before segment after, text.toList.splitOn ',' = before ++ segment :: after ∧
        (∀ earlier ∈ before, Text.trim earlier ≠ ['-']) ∧ Text.trim segment = ['-'] ∧
        e = .sort (String.ofList segment) := by
  rw [parseList, ← failure?_eq_some_iff, failure?_ofSegments, List.head?_map, Option.map_eq_some_iff,
    List.head?_filter]
  constructor
  · intro h
    obtain ⟨segment, hfind, he⟩ := h
    obtain ⟨hdash, before, after, hsplit, hbefore⟩ := List.find?_eq_some_iff_append.1 hfind
    refine ⟨before, segment, after, hsplit, ?_, eq_of_beq hdash, he.symm⟩
    intro earlier hmem
    simpa using hbefore earlier hmem
  · intro h
    obtain ⟨before, segment, after, hsplit, hbefore, hdash, he⟩ := h
    refine ⟨segment, ?_, he.symm⟩
    apply List.find?_eq_some_iff_append.2
    refine ⟨beq_iff_eq.2 hdash, before, after, hsplit, ?_⟩
    intro earlier hmem
    simpa using hbefore earlier hmem

theorem parseList_append (first second : String) :
    parseList (first ++ "," ++ second) = (do
      let fields ← parseList first
      let others ← parseList second
      pure (fields ++ others)) := by
  have htext : (first ++ "," ++ second).toList = first.toList ++ ',' :: second.toList := by
    rw [String.append_assoc, String.toList_append, String.toList_append]
    rfl
  rw [parseList, htext, List.splitOn_append_cons_self, ofSegments_append]
  rfl

end Whole
end SortField

namespace ListRequest

theorem sort_eq_ok_iff {request : ListRequest} {fields : List SortField} :
    request.sort = .ok fields ↔
      (request.values "sort" = [] ∧ fields = []) ∨
        ∃ text, request.values "sort" = [text] ∧ SortField.parseList text = .ok fields := by
  rw [sort]
  cases request.values "sort" with
  | nil => simp [pure, Except.pure, eq_comm]
  | cons text rest =>
    cases rest with
    | nil => simp [ServiceError.liftFilter_eq_ok_iff]
    | cons next rest => simp [throw, throwThe, MonadExceptOf.throw]

end ListRequest
namespace Catalog

theorem sort_of_plan {c : Catalog} {resource : String} {request : ListRequest} {user : User} {plan : SearchPlan}
    (h : c.plan resource request user = .ok (some plan)) :
    ∃ entity fields, c.entities.get? resource = some entity ∧ request.sort = .ok fields ∧
      plan.request.sort = fields.map fun f => { f with field := entity.sortField f.field }.render := by
  obtain ⟨entity, index, backend, selection, hroute, hplan⟩ := plan_eq_some_iff.1 h
  obtain ⟨-, hresolve, -, -⟩ := route_eq_search_iff.1 hroute
  obtain ⟨filter, page, fields, -, -, hsort, hparts⟩ := planFor_eq_ok_iff.1 hplan
  refine ⟨entity, fields, EntityRegistry.get?_of_resolve? hresolve, hsort, ?_⟩
  rw [hparts]

end Catalog

namespace SortField

/-- Reading undoes printing, wherever blanks and blank segments are added, and what is read can be printed and
read again. Only a dash alone is refused, the first one for the whole order. -/
theorem sort_order_reads_back :
    (∀ fields segments, (∀ f ∈ fields, f.Writable) → SaysList fields segments →
      parseList (String.ofList ([','].intercalate segments)) = .ok fields) ∧
    (∀ fields, (∀ f ∈ fields, f.Writable) → parseList (writtenList fields) = .ok fields) ∧
    (∀ text e, parseList text = .error e ↔
      ∃ before segment after, text.toList.splitOn ',' = before ++ segment :: after ∧
        (∀ earlier ∈ before, Text.trim earlier ≠ ['-']) ∧ Text.trim segment = ['-'] ∧
        e = .sort (String.ofList segment)) ∧
    (∀ text fields, parseList text = .ok fields → SaysList fields (text.toList.splitOn ',') ∧
      (∀ f ∈ fields, f.Writable) ∧ parseList (writtenList fields) = .ok fields) ∧
    (∀ first second : String, parseList (first ++ "," ++ second) = (do
      let fields ← parseList first
      let others ← parseList second
      pure (fields ++ others))) ∧
    ∀ (c : Catalog) (resource : String) (request : ListRequest) (user : User) (plan : SearchPlan),
      c.plan resource request user = .ok (some plan) →
      ∃ entity fields, c.entities.get? resource = some entity ∧
        ((request.values "sort" = [] ∧ fields = []) ∨
          ∃ text, request.values "sort" = [text] ∧ parseList text = .ok fields) ∧
        plan.request.sort = fields.map fun f => .object
          [((Table.find? entity.sortAliases f.field).getD f.field,
            .string (if f.descending then "desc" else "asc"))] := by
  have hprinted (fields : List SortField) (hfields : ∀ f ∈ fields, f.Writable) :
      parseList (writtenList fields) = .ok fields := (saysList_written fields).parseList_eq hfields
  refine ⟨?spaced, hprinted, ?refused, ?again, parseList_append, ?planned⟩
  case spaced =>
    intro fields segments hfields hsaid
    exact hsaid.parseList_eq hfields
  case refused =>
    intro text e
    exact parseList_eq_error_iff
  case again =>
    intro text fields h
    obtain ⟨hsaid, hfields⟩ := saysList_of_parseList h
    exact ⟨hsaid, hfields, hprinted fields hfields⟩
  case planned =>
    intro c resource request user plan h
    obtain ⟨entity, fields, hentity, hsort, hplan⟩ := Catalog.sort_of_plan h
    exact ⟨entity, fields, hentity, ListRequest.sort_eq_ok_iff.1 hsort, hplan⟩

def spacedOrder : String := " - short_name ,, a-b,\t"

def spacedFields : List SortField := [desc "short_name", asc "a-b"]

def sortedProbes : ListRequest := ⟨[("q", "probe"), ("sort", spacedOrder)]⟩

theorem writable_spacedFields : ∀ f ∈ spacedFields, f.Writable := by
  have hfirst : Text.Trimmed "short_name".toList := Text.trimmed_of_forall (by simp [Text.isBlank])
  have hsecond : Text.Trimmed "a-b".toList := Text.trimmed_of_forall (by simp [Text.isBlank])
  rw [spacedFields, List.forall_mem_cons, List.forall_mem_singleton]
  exact ⟨⟨by decide, by decide, hfirst, by decide⟩, ⟨by decide, by decide, hsecond, by decide⟩⟩

theorem saysList_spacedFields : SaysList spacedFields (spacedOrder.toList.splitOn ',') := by
  have hfirst : Says (desc "short_name") ([' '] ++ '-' :: ([' '] ++ "short_name".toList) ++ [' ']) :=
    .desc rfl rfl rfl
  have hsecond : Says (asc "a-b") ([' '] ++ "a-b".toList ++ []) := .asc rfl rfl
  exact .field hfirst (.blank rfl (.field hsecond (.blank rfl .nil)))

theorem sort_order_reads_back_spaced :
    parseList spacedOrder = .ok spacedFields ∧
    parseList "-short_name,a-b" = .ok spacedFields ∧
    ∃ plan, Catalog.publicDevices.plan "devices" sortedProbes .anonymous = .ok (some plan) ∧
      plan.request.sort =
        [.object [("short_name.keyword", .string "desc")], .object [("a-b", .string "asc")]] := by
  obtain ⟨hspaced, -, -, hagain, -, hplanned⟩ := sort_order_reads_back
  have hread := hspaced spacedFields _ writable_spacedFields saysList_spacedFields
  rw [List.intercalate_splitOn, String.ofList_toList] at hread
  have hselection : sortedProbes.selection = .ok ⟨some "probe", none, .lenient⟩ := rfl
  have hpage : Catalog.publicDevices.allowedPage sortedProbes = .ok ⟨1, 20⟩ := rfl
  have hsort : sortedProbes.sort = .ok spacedFields := ListRequest.sort_eq_ok_iff.2 (.inr ⟨_, rfl, hread⟩)
  obtain ⟨plan, hplan⟩ :=
    Catalog.exists_plan rfl Catalog.resolve?_devices hselection rfl hpage hsort .anonymous
  refine ⟨hread, (hagain spacedOrder spacedFields hread).2.2, plan, hplan, ?_⟩
  obtain ⟨entity, fields, hentity, hfields, hrendered⟩ := hplanned _ _ _ _ plan hplan
  have hdevice := EntityRegistry.get?_of_resolve? Catalog.resolve?_devices
  rw [hdevice] at hentity
  cases hentity
  have hsame := ListRequest.sort_eq_ok_iff.2 hfields
  rw [hsort] at hsame
  cases hsame
  rw [hrendered]
  rfl

/-- The first of two dashes is the error, as it was written. -/
example : parseList "model, -\t,-" = .error (.sort " -\t") := by cbv

end SortField
end CatalogSearch
