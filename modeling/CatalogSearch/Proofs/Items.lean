import CatalogSearch.Proofs.Listing
import CatalogSearch.Proofs.Restriction
import Mathlib.Data.List.Forall2
/-!
The items of a listing that no loader completes. The main statement is `list_shows_hits`: there is an item for each
hit in order, which has all that the indexed document has and an identifier; and items that are indexed and found in
their turn are listed as they are.
-/
namespace CatalogSearch

namespace SearchHit
variable {hit : SearchHit}

def members (hit : SearchHit) : List (String × Json) :=
  match hit.source with
  | .object members => members
  | _ => []

/-- An item with the members of the indexed document as they stand there. Only where none of them is called `id`,
whatever its value, the identifier of the hit comes after them. -/
inductive ShownAs (hit : SearchHit) : Json → Prop where
  | own (h : "id" ∈ Table.keys hit.members) : ShownAs hit (.object hit.members)
  | completed (h : "id" ∉ Table.keys hit.members) :
      ShownAs hit (.object (hit.members ++ [("id", .string hit.id)]))

def HasId (item : Json) : Prop := ∃ members, item = .object members ∧ "id" ∈ Table.keys members

theorem document_eq (hit : SearchHit) : hit.document = .object (addId hit.id hit.members) := by
  rw [document, members]
  cases hit.source <;> rfl

theorem addId_of_mem {members : List (String × Json)} (h : "id" ∈ Table.keys members) (id : String) :
    addId id members = members := by
  rw [addId, if_pos ((Table.mem_keys_iff members "id").1 h)]

theorem addId_of_not_mem {members : List (String × Json)} (h : "id" ∉ Table.keys members) (id : String) :
    addId id members = members ++ [("id", .string id)] := by
  rw [addId, if_neg fun hsome => h ((Table.mem_keys_iff members "id").2 hsome)]

theorem shownAs_document (hit : SearchHit) : hit.ShownAs hit.document := by
  rw [document_eq]
  by_cases h : "id" ∈ Table.keys hit.members
  · rw [addId_of_mem h]
    exact .own h
  · rw [addId_of_not_mem h]
    exact .completed h

theorem ShownAs.hasId {item : Json} (h : hit.ShownAs item) : HasId item := by
  cases h with
  | own hown => exact ⟨hit.members, rfl, hown⟩
  | completed => exact ⟨_, rfl, by simp [Table.keys]⟩

/-- Nothing is left to complete in an item, whatever the identifier of the hit that it is found as. -/
theorem document_of_hasId (h : HasId hit.source) : hit.document = hit.source := by
  obtain ⟨members, hsource, hid⟩ := h
  have hmembers : hit.members = members := by rw [SearchHit.members, hsource]
  rw [document_eq, hmembers, addId_of_mem hid, hsource]

end SearchHit

namespace Catalog
variable {c : Catalog} {resource : String} {request : ListRequest} {user : User} {hits : SearchHits}

/-- A request that is searched for without a loader, and the hits that the index answers it with. -/
structure Finds (c : Catalog) (resource : String) (request : ListRequest) (user : User) (hits : SearchHits) :
    Prop where
  loader : c.loader = none
  search : ∃ backend plan, c.search = some backend ∧ c.plan resource request user = .ok (some plan) ∧
    backend plan.index plan.request = .ok hits

theorem list_of_finds (h : c.Finds resource request user hits) :
    (c.list resource request user).result = .ok ⟨hits.total, hits.hits.map SearchHit.document⟩ := by
  obtain ⟨backend, plan, hbackend, hplan, hhits⟩ := h.search
  have hcarries := c.carriesOut_plan resource request user
  rw [hplan] at hcarries
  obtain ⟨backend', entity, hbackend', -, hlist⟩ := hcarries
  rw [hbackend] at hbackend'
  cases hbackend'
  rw [hlist, SearchPlan.searched.eq_def, hhits, h.loader]

/-- A listing of hits has their total and their items in order, each with an identifier. Where items are indexed
and found again, in this catalogue or another, the same items are listed. -/
theorem list_shows_hits (h : c.Finds resource request user hits) :
    ∃ listing, (c.list resource request user).result = .ok listing ∧ listing.total = hits.total ∧
      List.Forall₂ SearchHit.ShownAs hits.hits listing.items ∧
      (∀ item ∈ listing.items, SearchHit.HasId item) ∧
      ∀ (d : Catalog) (resource : String) (request : ListRequest) (user : User) (again : SearchHits),
        d.Finds resource request user again → again.hits.map SearchHit.source = listing.items →
        (d.list resource request user).result = .ok ⟨again.total, listing.items⟩ := by
  have hids : ∀ item ∈ hits.hits.map SearchHit.document, SearchHit.HasId item := by
    intro item hitem
    obtain ⟨hit, -, hdocument⟩ := List.mem_map.1 hitem
    rw [← hdocument]
    exact hit.shownAs_document.hasId
  refine ⟨_, list_of_finds h, rfl, ?shown, hids, ?again⟩
  case shown =>
    rw [List.forall₂_map_right_iff]
    exact List.forall₂_same.2 fun hit _ => hit.shownAs_document
  case again =>
    intro d resource request user again hagain hsources
    have hdocuments : again.hits.map SearchHit.document = again.hits.map SearchHit.source := by
      apply List.map_congr_left
      intro hit hmem
      have hitem : hit.source ∈ again.hits.map SearchHit.source := List.mem_map_of_mem hmem
      rw [hsources] at hitem
      exact SearchHit.document_of_hasId (hids hit.source hitem)
    rw [list_of_finds hagain, hdocuments, hsources]

def probeHits : SearchHits where
  total := 40
  hits := [
    ⟨"12", .object [("id", .null), ("label", .string "probe")]⟩,
    ⟨"13", .object [("label", .string "old one")]⟩,
    ⟨"14", .string "lost"⟩]

def probeItems : List Json := [
  .object [("id", .null), ("label", .string "probe")],
  .object [("label", .string "old one"), ("id", .string "13")],
  .object [("id", .string "14")]]

def answering (hits : SearchHits) : Catalog := { publicDevices with search := some fun _ _ => .ok hits }

theorem finds_answering (hits : SearchHits) : (answering hits).Finds "devices" oldProbes .anonymous hits where
  loader := rfl
  search := by
    have hpage : (answering hits).allowedPage oldProbes = .ok ⟨1, 20⟩ := rfl
    obtain ⟨plan, hplan⟩ :=
      exists_plan (c := answering hits) rfl resolve?_devices selection_oldProbes rfl hpage rfl .anonymous
    exact ⟨_, plan, rfl, hplan, rfl⟩

theorem list_shows_hits_probes :
    ∃ listing, ((answering probeHits).list "devices" oldProbes .anonymous).result = .ok listing ∧
      listing.total = 40 ∧ listing.items = probeItems ∧
      ((answering ⟨1, [⟨"x", .object [("id", .string "14")]⟩]⟩).list "devices" oldProbes .anonymous).result =
        .ok ⟨1, [.object [("id", .string "14")]]⟩ := by
  obtain ⟨listing, hlisting, htotal, -, -, -⟩ := list_shows_hits (finds_answering probeHits)
  obtain ⟨single, hsingle, -, -, -, hagain⟩ := list_shows_hits (finds_answering ⟨7, [⟨"14", .null⟩]⟩)
  refine ⟨listing, hlisting, htotal, ?_, ?_⟩
  · rw [list_of_finds (finds_answering probeHits)] at hlisting
    cases hlisting
    rfl
  · rw [list_of_finds (finds_answering _)] at hsingle
    cases hsingle
    exact hagain _ _ _ _ ⟨1, [⟨"x", .object [("id", .string "14")]⟩]⟩ (finds_answering _) rfl

end Catalog
end CatalogSearch
