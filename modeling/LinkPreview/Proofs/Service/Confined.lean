import LinkPreview.Proofs.Catalog.Texts
import LinkPreview.Proofs.Service.Chosen

set_option autoImplicit false

namespace LinkPreview.Service
open Log

theorem asked_faultsIn (r : MetadataRequest) :
    FaultsIn Fault.OfInput (asked extract r).result := by
  rw [asked, treeFor_eq]
  exact Catalog.extract_faultsIn_part fun _ => chosen_standard

theorem status_of_known {limit : Int} {showId : TraceId → Value} {request : Request}
    {r : MetadataRequest} (hasks : request.Asks r)
    (hknown : ∀ name ∈ r.fields.getD [], name ∈ Catalog.fields.map (·.name)) (j : Journal) :
    (answer limit extract showId request j).1.status ∈ [200, 400, 413] := by
  rw [answer_of_asks hasks, metadata_response]
  by_cases hlt : limit < r.html.utf8ByteSize
  · rw [if_pos hlt]
    show 413 ∈ [200, 400, 413]
    decide
  · rw [if_neg hlt, if_neg (not_not_intro (strange_eq_nil_iff.2 hknown))]
    cases hdone : (asked extract r).result with
    | error fault =>
      have hkind : fault.kind = .value := asked_faultsIn r fault hdone
      -- only a fault of another kind would be the service's own
      show (if fault.kind = .value then 400 else 500) ∈ [200, 400, 413]
      rw [if_pos hkind]
      decide
    | ok found =>
      show 200 ∈ [200, 400, 413]
      decide

/-- Fields out of the standard ones are found, or fail for what the page or its URL holds; their
parts are only given what they can take. So no request for known fields makes the service fail. -/
theorem answer_confined :
    (∀ fs : List Catalog.Field, (∀ f ∈ fs, f ∈ Catalog.fields) → ∀ page url,
      (∀ fault, (extract page (.ofUrl url) (Catalog.treeOf fs)).result = .error fault →
        fault.kind = .value) ∧
      ∀ f ∈ fs, f.Fits page (.ofUrl url)) ∧
    ∀ limit showId (request : Request) r, request.Asks r →
      (∀ name ∈ r.fields.getD [], name ∈ Catalog.fields.map (·.name)) →
      ∀ j, (answer limit extract showId request j).1.status ∈ [200, 400, 413] := by
  refine ⟨?_, ?_⟩
  · intro fs hfs page url
    exact ⟨Catalog.extract_faultsIn_part hfs, fun f hf => f.fits (hfs f hf) url page⟩
  · intro limit showId request r hasks hknown j
    exact status_of_known hasks hknown j

theorem answer_brokenHost_confined :
    (∃ fault, (extract (.document .nil) (.ofUrl (some "http://["))
        (Catalog.treeOf [Catalog.provider])).result = .error fault ∧ fault.kind = .value) ∧
      Catalog.provider.Fits (.document .nil) (.ofUrl (some "http://[")) ∧
      (answer 100 extract (fun _ => .null) brokenHost.posted (.start 20)).1.status ∈
        [200, 400, 413] := by
  obtain ⟨hextract, hanswer⟩ := answer_confined
  obtain ⟨hfault, hfits⟩ := hextract [Catalog.provider] (by decide) (.document .nil)
    (some "http://[")
  refine ⟨?_, hfits _ List.mem_cons_self,
    hanswer 100 _ _ brokenHost brokenHost.asks_posted (by decide) (.start 20)⟩
  cases hdone : (extract (.document .nil) (.ofUrl (some "http://["))
      (Catalog.treeOf [Catalog.provider])).result with
  | error fault => exact ⟨fault, rfl, hfault fault hdone⟩
  | ok found =>
    have hnot : (extract (.document .nil) (.ofUrl (some "http://["))
        (Catalog.treeOf [Catalog.provider])).result.isOk = false := by decide +kernel
    rw [hdone] at hnot
    contradiction

end LinkPreview.Service
