import CatalogSearch.Proofs.Decoding
import CatalogSearch.Proofs.Printing
import CatalogSearch.Search.Client
/-!
What responses of the search engine say. `Reports` tells of a JSON value which hits it reports, and the main
statement is `hits?_reports`: a response of that value is decoded to these hits, and to none at all where the value
reports none; only the members that are read count, wherever they stand.
-/
namespace CatalogSearch.Response
open Json (Decoder Record)

inductive IsTotal : Json → UInt64 → Prop where
  | count (n : UInt64) : IsTotal (.ofWord n) n
  | value {members : List (String × Json)} {n : UInt64} (h : Table.find? members "value" = some (.ofWord n)) :
      IsTotal (.object members) n

/-- An entry with an identifier. Its document may be left out, and is null then. -/
inductive IsHit : Json → SearchHit → Prop where
  | intro {members : List (String × Json)} {id : String} (h : Table.find? members "_id" = some (.string id)) :
      IsHit (.object members) ⟨id, (Table.find? members "_source").getD .null⟩

/-- All entries of a list in order; a list that is left out has none. -/
inductive Lists : Option Json → List SearchHit → Prop where
  | absent : Lists none []
  | entries {entries : List Json} {hits : List SearchHit} (h : List.Forall₂ IsHit entries hits) :
      Lists (some (.array entries)) hits

inductive IsEnvelope : Json → SearchHits → Prop where
  | intro {members : List (String × Json)} {total : Json} {n : UInt64} {hits : List SearchHit}
      (htotal : Table.find? members "total" = some total) (hn : IsTotal total n)
      (hhits : Lists (Table.find? members "hits") hits) : IsEnvelope (.object members) ⟨n, hits⟩

/-- A response that reports hits: its member `hits` has their total and their list. -/
inductive Reports : Json → SearchHits → Prop where
  | intro {members : List (String × Json)} {envelope : Json} {found : SearchHits}
      (henvelope : Table.find? members "hits" = some envelope) (hfound : IsEnvelope envelope found) :
      Reports (.object members) found

theorem isTotal_object_iff {members : List (String × Json)} {n : UInt64} :
    IsTotal (.object members) n ↔ Table.find? members "value" = some (.ofWord n) := by
  constructor
  · intro h
    cases h with
    | value hvalue => exact hvalue
  · exact .value

theorem isTotal_iff_of_ne {v : Json} (h : ∀ members, v ≠ .object members) {n : UInt64} :
    IsTotal v n ↔ v = .ofWord n := by
  constructor
  · intro htotal
    cases htotal with
    | count => rfl
    | value => exact absurd rfl (h _)
  · intro hv
    rw [hv]
    exact .count n

theorem isHit_object_iff {members : List (String × Json)} {hit : SearchHit} :
    IsHit (.object members) hit ↔ Table.find? members "_id" = some (.string hit.id) ∧
      hit.source = (Table.find? members "_source").getD .null := by
  constructor
  · intro h
    cases h with
    | intro hid => exact ⟨hid, rfl⟩
  · intro h
    obtain ⟨id, source⟩ := hit
    obtain ⟨hid, hsource⟩ := h
    simp only at hid hsource
    rw [hsource]
    exact .intro hid

theorem lists_iff {listed : Option Json} {hits : List SearchHit} :
    Lists listed hits ↔ (listed = none ∧ hits = []) ∨
      ∃ entries, listed = some (.array entries) ∧ List.Forall₂ IsHit entries hits := by
  constructor
  · intro h
    cases h with
    | absent => exact .inl ⟨rfl, rfl⟩
    | entries hentries => exact .inr ⟨_, rfl, hentries⟩
  · intro h
    cases h with
    | inl habsent =>
      rw [habsent.1, habsent.2]
      exact .absent
    | inr hlisted =>
      obtain ⟨entries, hsome, hentries⟩ := hlisted
      rw [hsome]
      exact .entries hentries

theorem isEnvelope_object_iff {members : List (String × Json)} {found : SearchHits} :
    IsEnvelope (.object members) found ↔
      (∃ total, Table.find? members "total" = some total ∧ IsTotal total found.total) ∧
        Lists (Table.find? members "hits") found.hits := by
  constructor
  · intro h
    cases h with
    | intro htotal hn hhits => exact ⟨⟨_, htotal, hn⟩, hhits⟩
  · intro h
    obtain ⟨⟨total, htotal, hn⟩, hhits⟩ := h
    exact .intro htotal hn hhits

theorem reports_object_iff {members : List (String × Json)} {found : SearchHits} :
    Reports (.object members) found ↔
      ∃ envelope, Table.find? members "hits" = some envelope ∧ IsEnvelope envelope found := by
  constructor
  · intro h
    cases h with
    | intro henvelope hfound => exact ⟨_, henvelope, hfound⟩
  · intro h
    obtain ⟨envelope, henvelope, hfound⟩ := h
    exact .intro henvelope hfound

/-! Decoding -/

/-- A response that writes nothing as a list of which the members are read by name. -/
structure ByName (v : Json) : Prop where
  response : ∀ items, v ≠ .array items
  envelope : ∀ members items, v = .object members → Table.find? members "hits" ≠ some (.array items)
  entry : ∀ members inner entries items, v = .object members →
    Table.find? members "hits" = some (.object inner) → Table.find? inner "hits" = some (.array entries) →
    .array items ∉ entries

theorem total_eq_word {room : Nat} {d : Json.Document} (h : ∀ written, d ≠ .object written)
    (hjson : d.json? room ≠ none) : total room d = Decoder.word room d := by
  obtain ⟨v, hv⟩ := Option.ne_none_iff_exists'.1 hjson
  simp only [total, hv, Option.bind_eq_bind, Option.bind_some]
  cases d with
  | object written => exact absurd rfl (h written)
  | _ => rfl

theorem reads_total (v : Json) : Decoder.Reads total IsTotal v := by
  intro room d hwrites n
  by_cases hobject : ∃ members, v = .object members
  · obtain ⟨members, hv⟩ := hobject
    subst hv
    obtain ⟨written, hd, -⟩ := hwrites.of_object
    obtain ⟨r, hr, hholds⟩ := Record.open?_object ["value"] hwrites
    have htotal : total room d = r.required "value" .word := by
      subst hd
      simp [total, hwrites.value, hr]
    rw [htotal, hholds.required_eq_some_iff List.mem_cons_self fun v _ => Decoder.reads_word v,
      isTotal_object_iff]
    simp
  · have hne : ∀ members, v ≠ .object members := fun members hv => hobject ⟨members, hv⟩
    have hd : ∀ written, d ≠ .object written := by
      intro written hd
      rw [hd] at hwrites
      exact Json.Document.json?_object_ne hne hwrites.value
    rw [total_eq_word hd (by simp [hwrites.value]), Decoder.reads_word v room d hwrites n, isTotal_iff_of_ne hne]

theorem reads_hit {v : Json} (harray : ∀ items, v ≠ .array items) : Decoder.Reads hit IsHit v := by
  apply Record.reads_of_object harray
  case hobject =>
    intro a h
    cases h with
    | intro => exact ⟨_, rfl⟩
  case hbody =>
    intro members r hv hholds a
    obtain ⟨id, source⟩ := a
    simp only [Option.bind_eq_bind, Option.bind_eq_some_iff, Option.pure_def, Option.some.injEq,
      SearchHit.mk.injEq, exists_eq_right_right]
    rw [hv, isHit_object_iff, hholds.required_eq_some_iff (by decide) fun v _ => Decoder.reads_text v,
      hholds.optional_eq_some_iff (by decide) fun v _ => Decoder.reads_value v]
    cases Table.find? members "_source" <;> simp [eq_comm]

theorem reads_envelope {v : Json} (harray : ∀ items, v ≠ .array items)
    (hentries : ∀ members entries items, v = .object members →
      Table.find? members "hits" = some (.array entries) → .array items ∉ entries) :
    Decoder.Reads envelope IsEnvelope v := by
  apply Record.reads_of_object harray
  case hobject =>
    intro a h
    cases h with
    | intro => exact ⟨_, rfl⟩
  case hbody =>
    intro members r hv hholds a
    have hlist : ∀ listed, Table.find? members "hits" = some listed → Decoder.Reads (.list hit)
        (fun listed hits => ∃ entries, listed = .array entries ∧ List.Forall₂ IsHit entries hits) listed := by
      intro listed hlisted
      apply Decoder.reads_list
      intro entries heq entry hentry
      rw [heq] at hlisted
      apply reads_hit
      intro items hitems
      rw [hitems] at hentry
      exact hentries members entries items hv hlisted hentry
    obtain ⟨n, hits⟩ := a
    simp only [Option.bind_eq_bind, Option.bind_eq_some_iff, Option.pure_def, Option.some.injEq,
      SearchHits.mk.injEq, exists_eq_right_right]
    rw [hv, isEnvelope_object_iff, lists_iff,
      hholds.required_eq_some_iff (by decide) fun v _ => reads_total v,
      hholds.optional_eq_some_iff (by decide) hlist]
    simp

theorem reads_decode {v : Json} (h : ByName v) : Decoder.Reads decode Reports v := by
  apply Record.reads_of_object h.response
  case hobject =>
    intro a hreports
    cases hreports with
    | intro => exact ⟨_, rfl⟩
  case hbody =>
    intro members r hv hholds a
    have henvelope : ∀ inner, Table.find? members "hits" = some inner →
        Decoder.Reads envelope IsEnvelope inner := by
      intro inner hfound
      apply reads_envelope
      · intro items hitems
        rw [hitems] at hfound
        exact h.envelope members items hv hfound
      · intro fields entries items hinner hentries
        rw [hinner] at hfound
        exact h.entry members fields entries items hv hfound hentries
    rw [hv, reports_object_iff, hholds.required_eq_some_iff List.mem_cons_self henvelope]

/-! Members that are not read -/

def AlikeTotals : Json → Json → Prop := Json.AgreeOn ["value"] fun _ => Eq

def AlikeEntries : Json → Json → Prop := Json.AgreeOn ["_id", "_source"] fun _ => Eq

def AlikeLists : Json → Json → Prop
  | .array entries, .array others => List.Forall₂ AlikeEntries entries others
  | listed, other => listed = other

def AlikeEnvelopes : Json → Json → Prop :=
  Json.AgreeOn ["total", "hits"] fun name => if name = "total" then AlikeTotals else AlikeLists

def Alike : Json → Json → Prop := Json.AgreeOn ["hits"] fun _ => AlikeEnvelopes

theorem exists_congr_of_rel {held other : Option Json} {alike : Json → Json → Prop} {P : Json → Prop}
    (h : Option.Rel alike held other) (hcongr : ∀ v w, alike v w → (P v ↔ P w)) :
    (∃ v, held = some v ∧ P v) ↔ ∃ w, other = some w ∧ P w := by
  cases h with
  | none => simp
  | some halike => simp [hcongr _ _ halike]

section Alike
variable {v w : Json}

theorem isTotal_congr (h : AlikeTotals v w) {n : UInt64} : IsTotal v n ↔ IsTotal w n := by
  obtain hsame | ⟨members, others, hv, hw, hfields⟩ := Json.AgreeOn.eq_or h
  · rw [hsame]
  · have hvalue := Json.rel_eq_iff.1 (hfields "value" (by decide))
    rw [hv, hw, isTotal_object_iff, isTotal_object_iff, hvalue]

theorem isHit_congr (h : AlikeEntries v w) {hit : SearchHit} : IsHit v hit ↔ IsHit w hit := by
  obtain hsame | ⟨members, others, hv, hw, hfields⟩ := Json.AgreeOn.eq_or h
  · rw [hsame]
  · have hid := Json.rel_eq_iff.1 (hfields "_id" (by decide))
    have hsource := Json.rel_eq_iff.1 (hfields "_source" (by decide))
    rw [hv, hw, isHit_object_iff, isHit_object_iff, hid, hsource]

theorem forall₂_isHit_congr {entries others : List Json} (h : List.Forall₂ AlikeEntries entries others)
    {hits : List SearchHit} : List.Forall₂ IsHit entries hits ↔ List.Forall₂ IsHit others hits := by
  induction h generalizing hits with
  | nil => rfl
  | cons hfirst _ ih =>
    rw [List.forall₂_cons_left_iff, List.forall₂_cons_left_iff]
    simp only [isHit_congr hfirst, ih]

theorem lists_congr {listed other : Option Json} (h : Option.Rel AlikeLists listed other)
    {hits : List SearchHit} : Lists listed hits ↔ Lists other hits := by
  cases h with
  | none => rfl
  | @some v w h =>
    rw [AlikeLists.eq_def] at h
    split at h
    case h_1 entries others =>
      simp only [lists_iff, Option.some.injEq, Json.array.injEq, exists_eq_left', forall₂_isHit_congr h]
      simp
    case h_2 => rw [h]

theorem isEnvelope_congr (h : AlikeEnvelopes v w) {found : SearchHits} :
    IsEnvelope v found ↔ IsEnvelope w found := by
  obtain hsame | ⟨members, others, hv, hw, hfields⟩ := Json.AgreeOn.eq_or h
  · rw [hsame]
  · have htotal := hfields "total" (by decide)
    have hhits := hfields "hits" (by decide)
    rw [if_pos rfl] at htotal
    rw [if_neg (by decide)] at hhits
    rw [hv, hw, isEnvelope_object_iff, isEnvelope_object_iff, lists_congr hhits,
      exists_congr_of_rel htotal fun _ _ halike => isTotal_congr halike]

theorem reports_congr (h : Alike v w) {found : SearchHits} : Reports v found ↔ Reports w found := by
  obtain hsame | ⟨members, others, hv, hw, hfields⟩ := Json.AgreeOn.eq_or h
  · rw [hsame]
  · have hhits := hfields "hits" (by decide)
    rw [hv, hw, reports_object_iff, reports_object_iff,
      exists_congr_of_rel hhits fun _ _ halike => isEnvelope_congr halike]

end Alike

theorem hits?_eq_some_iff {body : String} {d : Json.Document} {v : Json}
    (hread : Json.Document.read? body = some d)
    (hwrites : d.Writes Json.Document.depthLimit v) (hnames : ByName v) {found : SearchHits} :
    hits? body = some found ↔ Reports v found := by
  rw [hits?, hread]
  exact reads_decode hnames _ _ hwrites found

theorem readReply_of_success {status : Nat} (hsuccess : Status.isSuccess status = true)
    (hbody : Status.isBodiless status = false) (index body : String) :
    SearchClient.readReply index ⟨status, body⟩ =
      match hits? body with
      | some found => .ok found
      | none => .error (.search .unexpectedResponse) := by
  have hinterim : Status.isInterim status = false := by
    rw [Status.isSuccess, Bool.and_eq_true, decide_eq_true_eq] at hsuccess
    rw [Status.isInterim, Bool.and_eq_false_iff]
    exact .inl (by simpa using hsuccess.1)
  rw [SearchClient.readReply]
  simp only [hbody, hinterim, hsuccess, Bool.false_eq_true, if_false, if_true]
  cases hits? body <;> rfl

/-- A response that writes its members by name is decoded to the hits that its value reports. If it reports none,
the search fails and has no hits. Responses with the same members where these are read are decoded alike. -/
theorem hits?_reports {body : String} {d : Json.Document} {v : Json} (hread : Json.Document.read? body = some d)
    (hwrites : d.Writes Json.Document.depthLimit v) (hnames : ByName v) :
    (∀ found, hits? body = some found ↔ Reports v found) ∧
    (∀ index status, Status.isSuccess status = true → Status.isBodiless status = false →
      (∀ found, SearchClient.readReply index ⟨status, body⟩ = .ok found ↔ Reports v found) ∧
      ((¬ ∃ found, Reports v found) →
        SearchClient.readReply index ⟨status, body⟩ = .error (.search .unexpectedResponse))) ∧
    ∀ other e w, Json.Document.read? other = some e → e.Writes Json.Document.depthLimit w → ByName w →
      Alike v w → hits? other = hits? body := by
  have hdecoded (found : SearchHits) : hits? body = some found ↔ Reports v found :=
    hits?_eq_some_iff hread hwrites hnames
  refine ⟨hdecoded, ?reply, ?alike⟩
  case reply =>
    intro index status hsuccess hbody
    rw [readReply_of_success hsuccess hbody]
    simp only [← hdecoded]
    cases hits? body with
    | none => simp
    | some found => simp
  case alike =>
    intro other e w hother hwritten hother_names halike
    apply Option.ext
    intro found
    rw [hdecoded, hits?_eq_some_iff hother hwritten hother_names, reports_congr halike]

def probeResponse : Json :=
  .object [
    ("took", .ofWord 3),
    ("hits", .object [
      ("hits", .array [
        .object [("_source", .object [("label", .string "probe")]), ("_id", .string "12")],
        .object [("_id", .string "13")]]),
      ("total", .object [("relation", .string "gte"), ("value", .ofWord 10000)])])]

def probeDocument : Json.Document :=
  .object [
    (.printed "took", .number (.natural 3)),
    (.printed "hits", .object [
      (.printed "hits", .array [
        .object [(.printed "_source", .object [(.printed "label", .string (.printed "probe"))]),
          (.printed "_id", .string (.printed "12"))],
        .object [(.printed "_id", .string (.printed "13"))]]),
      (.printed "total", .object [(.printed "relation", .string (.printed "gte")),
        (.printed "value", .number (.natural 10000))])])]

theorem probeDocument_prints : Json.Prints Json.Document.depthLimit probeDocument probeResponse := by
  refine Json.prints_object (.cons ⟨rfl, Json.prints_word 3⟩ (.cons ⟨rfl, ?envelope⟩ .nil)) (by decide)
  case envelope =>
    refine Json.prints_object (.cons ⟨rfl, ?entries⟩ (.cons ⟨rfl, ?total⟩ .nil)) (by decide)
    case entries =>
      refine Json.prints_array (.cons ?first (.cons ?second .nil))
      case first =>
        refine Json.prints_object (.cons ⟨rfl, ?source⟩ (.cons ⟨rfl, Json.prints_string "12"⟩ .nil)) (by decide)
        exact Json.prints_object (.cons ⟨rfl, Json.prints_string "probe"⟩ .nil) (by decide)
      case second => exact Json.prints_object (.cons ⟨rfl, Json.prints_string "13"⟩ .nil) (by decide)
    case total =>
      refine Json.prints_object (.cons ⟨rfl, Json.prints_string "gte"⟩ (.cons ⟨rfl, ?value⟩ .nil)) (by decide)
      exact Json.prints_word 10000

theorem probeResponse_byName : ByName probeResponse where
  response := nofun
  envelope := by
    intro members items hv
    cases hv
    simp [Table.find?]
  entry := by
    intro members inner entries items hv hinner hentries
    cases hv
    simp [Table.find?] at hinner
    subst hinner
    simp [Table.find?] at hentries
    subst hentries
    simp

theorem hits?_reports_probes :
    Json.Document.read? (Json.compact probeResponse) = some probeDocument ∧
      hits? (Json.compact probeResponse) =
        some ⟨10000, [⟨"12", .object [("label", .string "probe")]⟩, ⟨"13", .null⟩]⟩ := by
  have hread := probeDocument_prints.read?
  refine ⟨hread, ((hits?_reports hread probeDocument_prints.toWrites probeResponse_byName).1 _).2 ?_⟩
  refine .intro rfl (.intro rfl (.value rfl) (.entries ?_))
  exact .cons (.intro rfl) (.cons (.intro rfl) .nil)

end CatalogSearch.Response
