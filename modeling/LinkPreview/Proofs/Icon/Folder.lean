import LinkPreview.Proofs.Catalog.Stripped
import LinkPreview.Proofs.Icon.Default
import LinkPreview.Proofs.Provider.Label
import LinkPreview.Proofs.Url.Folder

/-! The default icon is resolved against the URL of a page as any other reference is. So a site has
one for each of the folders that its pages are in. -/
set_option autoImplicit false

namespace LinkPreview

theorem Url.isFile_favicon : IsFile "favicon.ico".toList where
  not_empty := by decide
  no_slash := by decide
  not_dot := by decide
  not_dots := by decide
  read := read_favicon

def Url.iconIn (x : Url) (outer : List (List Char)) : Value :=
  .text (String.ofList (x.fileIn outer "favicon.ico".toList))

section
variable {url : String} {b c : Url}

theorem Url.iconIn_inj {outer inner : List (List Char)} (hs : c.scheme = b.scheme)
    (ha : c.authority = b.authority) (ho : ∀ f ∈ outer, IsName f) (hi : ∀ f ∈ inner, IsName f) :
    c.iconIn outer = b.iconIn inner ↔ outer = inner := by
  rw [iconIn, iconIn, Value.text.injEq, String.ofList_inj]
  exact fileIn_inj hs ha isFile_favicon.toIsName ho hi

theorem Context.defaultIcon_of_isBase (h : Url.IsBase url.toList b) :
    defaultIcon (some url) = .ok (b.iconIn b.folders) := by
  unfold defaultIcon resolve
  dsimp only [Option.getD_some]
  rw [h.absolute Url.isFile_favicon]
  rfl

theorem Context.exists_provider (h : Url.read [] url.toList = .ok b) :
    ∃ provider, ((Context.ofUrl (some url)).host (.text url) >>= Provider.ofValue) =
      .ok provider := by
  have hhost : ∃ host, Url.hostOf url.toList = .ok host := by
    unfold Url.hostOf
    split
    · exact ⟨none, rfl⟩
    · exact ⟨b.host?, by rw [h]; rfl⟩
  obtain ⟨host, hhost⟩ := hhost
  show ∃ provider, (hostOf (.text url) >>= Provider.ofValue) = .ok provider
  unfold hostOf
  dsimp only
  rw [hhost]
  cases host with
  | none => exact ⟨.text "", rfl⟩
  | some name => exact ⟨_, Provider.ofValue_text _⟩

end

namespace Catalog
variable {content : Forest} {url : String} {b : Url}

theorem runRules_of_no_references
    (hnone : ∀ row ∈ iconRows, references row (.document content) = [])
    (hbase : Url.IsBase url.toList b) :
    (RuleTree.runRules (.document content) (.ofUrl (some url)) iconUrl.ruleSet).result =
      .ok (some (b.iconIn b.folders)) := by
  have hrun : iconUrl.matcher.run (.document content) (.ofUrl (some url)) =
      .ok (some ⟨b.iconIn b.folders, iconRows.length, some ⟨1, some (.whole 0)⟩⟩) := by
    rw [run_of_no_references hnone rfl, Context.defaultIcon_of_isBase hbase]
    rfl
  exact (Field.runRules_eq_ok_iff (List.cons_ne_nil _ _)).2 ⟨_, hrun, rfl⟩

theorem exists_field_of_fault {page : Place} {fault : Fault}
    (hread : Url.read [] url.toList = .ok b)
    (h : (extract page (.ofUrl (some url)) tree).result = .error fault) :
    ∃ f ∈ fields,
      (RuleTree.runRules page (.ofUrl (some url)) f.ruleSet).result = .error fault := by
  cases hr : (tree.resolve page (.ofUrl (some url))).result with
  | error other =>
    rw [extract_of_fault hr] at h
    obtain rfl : other = fault := Except.error.inj h
    have hsets : ∀ set ∈ tree.ruleSets, FaultsIn (fun fault => ∃ f ∈ fields,
        (RuleTree.runRules page (.ofUrl (some url)) f.ruleSet).result = .error fault)
        (RuleTree.runRules page (.ofUrl (some url)) set).result := by
      intro set hset fault hf
      obtain ⟨f, hmem, rfl⟩ := mem_ruleSets_treeOf hset
      exact ⟨f, hmem, hf⟩
    exact RuleTree.resolve_faultsIn hsets other hr
  | ok base =>
    rw [extract_of_resolve hr] at h
    obtain ⟨other, hask, hhost⟩ :=
      Extraction.derive_eq_error_iff.1 (Extraction.finish_result_eq_error_iff.1 h)
    obtain rfl : url = other := Option.some.inj hask.page
    obtain ⟨provider, hprovider⟩ := Context.exists_provider hread
    rw [bind_eq_error.2 hhost] at hprovider
    contradiction

/-- A page whose links declare no icon has the one in the folder of its URL, and fails only where
another field does. This is the icon at the top of the site exactly if the URL is in no folder, and
two URLs of a site have the same one exactly if they are in the same folder. -/
theorem extract_defaultIcon
    (hnone : ∀ row ∈ iconRows, references row (.document content) = [])
    (hbase : Url.IsBase url.toList b) :
    (∀ fault, (extract (.document content) (.ofUrl (some url)) tree).result = .error fault →
        ∃ f ∈ fields, f ≠ iconUrl ∧
          (RuleTree.runRules (.document content) (.ofUrl (some url)) f.ruleSet).result =
            .error fault) ∧
      (∀ found, (extract (.document content) (.ofUrl (some url)) tree).result = .ok found →
        found.get? "icon_url" = some (b.iconIn b.folders)) ∧
      (b.iconIn b.folders = b.iconIn [] ↔ b.folders = []) ∧
      ∀ other c, Url.IsBase other c → c.scheme = b.scheme → c.authority = b.authority →
        (c.iconIn c.folders = b.iconIn b.folders ↔ c.folders = b.folders) := by
  have hicon := runRules_of_no_references hnone hbase
  refine ⟨?_, ?_, ?_, ?_⟩
  · intro fault hfault
    obtain ⟨f, hf, hrun⟩ := exists_field_of_fault hbase.read hfault
    refine ⟨f, hf, ?_, hrun⟩
    rintro rfl
    rw [hicon] at hrun
    contradiction
  · intro found hfound
    obtain ⟨base, provider, hresolve, -, rfl⟩ := extract_result_eq_ok_iff.1 hfound
    have hfield := runRules_of_resolve hresolve (f := iconUrl) (by decide)
    have hvalue : base.get? "icon_url" = some (b.iconIn b.folders) :=
      Except.ok.inj (hfield.symm.trans hicon)
    rw [Extraction.get?_filled, hvalue, Option.some_or]
  · exact Url.iconIn_inj rfl rfl (Url.isName_of_mem_folders b) (by simp)
  · intro other c _ hs ha
    exact Url.iconIn_inj hs ha (Url.isName_of_mem_folders c) (Url.isName_of_mem_folders b)

theorem no_references_of_nil : ∀ row ∈ iconRows, references row (.document .nil) = [] := by
  decide +kernel

def deepUrl : Url where
  scheme := "https".toList
  authority := "me@News.example:80".toList
  path := "/a/./b/../c//d".toList
  params := "p".toList
  query := "q=/x".toList
  fragment := "/y".toList

theorem extract_defaultIcon_folders :
    (∀ row ∈ iconRows, references row (.document .nil) = []) ∧
      Url.IsBase "https://me@News.example:80/a/./b/../c//d;p?q=/x#/y".toList deepUrl ∧
      (∃ found, (extract (.document .nil)
          (.ofUrl (some "https://me@News.example:80/a/./b/../c//d;p?q=/x#/y")) tree).result =
            .ok found ∧
        found.get? "icon_url" = some (.text "https://me@News.example:80/a/c/favicon.ico")) ∧
      ∃ c, Url.IsBase "https://me@News.example:80?q".toList c ∧
        c.iconIn c.folders ≠ deepUrl.iconIn deepUrl.folders := by
  have hdeep : Url.IsBase "https://me@News.example:80/a/./b/../c//d;p?q=/x#/y".toList deepUrl :=
    Url.isBase_of_host rfl (.inr rfl) (by decide)
  have hflat : Url.IsBase "https://me@News.example:80?q".toList
      { deepUrl with path := [], params := [], query := ['q'], fragment := [] } :=
    Url.isBase_of_host rfl (.inr rfl) (by decide)
  obtain ⟨-, hicon, -, hsame⟩ := extract_defaultIcon no_references_of_nil hdeep
  refine ⟨no_references_of_nil, hdeep, ?_, _, hflat, ?_⟩
  · have hok : (extract (.document .nil) (.ofUrl (some
        "https://me@News.example:80/a/./b/../c//d;p?q=/x#/y")) tree).result.isOk = true := by
      decide +kernel
    obtain ⟨found, hfound⟩ := exists_of_isOk hok
    exact ⟨found, hfound, hicon found hfound⟩
  · rw [Ne, hsame _ _ hflat rfl rfl]
    decide

/-- The icon is looked for beside the page, and not at the top of its site. -/
theorem extract_defaultIcon_nested :
    (∀ row ∈ iconRows, references row (.document .nil) = []) ∧
      ∃ found,
        (extract (.document .nil) (.ofUrl (some "http://news.example/a/b")) tree).result =
          .ok found ∧
        found.get? "icon_url" = some (.text "http://news.example/a/favicon.ico") := by
  refine ⟨no_references_of_nil, ?_⟩
  have heval : ((extract (.document .nil) (.ofUrl (some "http://news.example/a/b"))
      tree).result.toOption.map fun found => textAt? found "icon_url") =
        some (some "http://news.example/a/favicon.ico") := by decide +kernel
  obtain ⟨found, hfound, htext⟩ := exists_of_eval heval
  exact ⟨found, hfound, get?_of_textAt? htext⟩

end Catalog
end LinkPreview
