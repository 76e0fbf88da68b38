import Darcbench.Modules.FixtureText

/-!
# What the digest of a fixture pins

Fixtures of equal documents are inserted alike, and the script holds the corpus
as it is.
-/

namespace Darcbench.WordpressFixture

/-! ## What the document leaves out -/

theorem Post.visible_kind (post : Post) : post.visible.kind = post.kind := by
  rw [Post.visible]
  split_ifs
  · rfl
  · rfl

theorem renderItem_visible (post : Post) :
    renderItem post.visible = renderItem post := by
  by_cases hpost : post.kind = .post
  · rw [Post.visible, if_pos hpost]
  · have hterms : ∀ other : Post, other.kind = post.kind →
        renderTerms other = [] :=
      fun other hkind => if_neg fun h => hpost (hkind.symm.trans h)
    rw [renderItem, renderItem, hterms post rfl,
      hterms post.visible post.visible_kind, Post.visible, if_neg hpost]
    rfl

theorem toWxr_visible (fixture : Fixture) :
    toWxr fixture.visible = toWxr fixture := by
  have hposts : fixture.visible.posts.flatMap renderItem =
      fixture.posts.flatMap renderItem := by
    rw [Fixture.visible, List.flatMap_map]
    exact List.flatMap_congr fun post _ => renderItem_visible post
  rw [toWxr, hposts]
  rfl

section Script

variable {W : Type} (wp : WordPress W)

theorem at?_ofFields (fields : List (String × Json ℕ)) (key : String) :
    at? (.ofFields fields) key = (fields.lookup key).getD .null := by
  rw [at?, Json.get?_ofFields]

/-- Of the members of an item the script leaves out two for a page. -/
theorem at?_postJson_visible (post : Post) {key : String}
    (hcategory : key ≠ "category") (htags : key ≠ "tags") :
    at? (postJson post.visible) key = at? (postJson post) key := by
  have hcategory' : (key == "category") = false :=
    beq_eq_false_iff_ne.mpr hcategory
  have htags' : (key == "tags") = false := beq_eq_false_iff_ne.mpr htags
  rw [Post.visible]
  split_ifs
  · rfl
  · simp only [postJson, at?_ofFields, List.lookup_cons, hcategory', htags']

theorem setTerms_page (number : ℕ) {item : Json ℕ}
    (hkind : at? item "kind" = .string "page") (site : W) :
    setTerms wp number item site = site := by
  simp [setTerms, hkind]

theorem setTerms_visible (number : ℕ) (post : Post) (site : W) :
    setTerms wp number (postJson post.visible) site =
      setTerms wp number (postJson post) site := by
  by_cases hpost : post.kind = .post
  · rw [Post.visible, if_pos hpost]
  · have hkind : at? (postJson post) "kind" = .string "page" := by
      cases hpage : post.kind with
      | post => exact absurd hpage hpost
      | page =>
          rw [postJson, at?_ofFields, hpage]
          rfl
    have hvisible : at? (postJson post.visible) "kind" = .string "page" :=
      (at?_postJson_visible post (by decide) (by decide)).trans hkind
    rw [setTerms_page wp number hvisible, setTerms_page wp number hkind]

/-- Items are inserted alike that differ in what is left out. -/
theorem insertItems_visible (checksum : Json ℕ) (posts : List Post) (site : W)
    (inserted comments : ℕ) :
    insertItems wp checksum ((posts.map Post.visible).map postJson) site
        inserted comments =
      insertItems wp checksum (posts.map postJson) site inserted comments := by
  induction posts generalizing site inserted comments with
  | nil => rfl
  | cons post rest ih =>
      have hmember : ∀ key ∈ ["title", "slug", "body", "excerpt", "date",
          "kind", "comments"],
          at? (postJson post.visible) key = at? (postJson post) key := by
        intro key hkey
        refine at?_postJson_visible post ?_ ?_
        · rintro rfl
          exact absurd hkey (by decide)
        · rintro rfl
          exact absurd hkey (by decide)
      rw [List.map_cons, List.map_cons, List.map_cons, insertItems,
        insertItems, hmember "title" (by decide), hmember "slug" (by decide),
        hmember "body" (by decide), hmember "excerpt" (by decide),
        hmember "date" (by decide), hmember "kind" (by decide),
        hmember "comments" (by decide)]
      simp only [setTerms_visible, ih]

theorem at?_toImportJson_visible (digest : List Char → String)
    (fixture : Fixture) {key : String} (hkey : key ≠ "posts") :
    at? (toImportJson digest fixture.visible) key =
      at? (toImportJson digest fixture) key := by
  have hposts : (key == "posts") = false := beq_eq_false_iff_ne.mpr hkey
  simp only [toImportJson, at?_ofFields, List.lookup_cons, hposts,
    toWxr_visible]
  rfl

theorem items_toImportJson (digest : List Char → String) (fixture : Fixture) :
    items (at? (toImportJson digest fixture) "posts") =
      fixture.posts.map postJson := by
  rw [toImportJson, at?_ofFields]
  rfl

theorem runImport_toImportJson (digest : List Char → String)
    (fixture : Fixture) (site : W) :
    runImport wp (toImportJson digest fixture) site =
      insertItems wp (at? (toImportJson digest fixture) "checksum")
        (fixture.posts.map postJson)
        (insertTerms wp "post_tag"
          (items (at? (toImportJson digest fixture) "tags"))
          (insertTerms wp "category"
            (items (at? (toImportJson digest fixture) "categories")) site))
        0 0 := by
  rw [← items_toImportJson digest fixture]
  rfl

theorem runImport_visible (digest : List Char → String) (fixture : Fixture)
    (site : W) :
    runImport wp (toImportJson digest fixture.visible) site =
      runImport wp (toImportJson digest fixture) site := by
  rw [runImport_toImportJson, runImport_toImportJson,
    at?_toImportJson_visible digest fixture (by decide),
    at?_toImportJson_visible digest fixture (by decide),
    at?_toImportJson_visible digest fixture (by decide)]
  exact insertItems_visible wp _ fixture.posts _ 0 0

theorem visible_eq_of_toWxr_eq {fixture fixture' : Fixture}
    (h : toWxr fixture = toWxr fixture') :
    fixture.visible = fixture'.visible := by
  have hread := congrArg readWxr h
  rw [readWxr_toWxr, readWxr_toWxr] at hread
  exact Option.some.inj hread

theorem runImport_eq_of_toWxr_eq (digest : List Char → String)
    {fixture fixture' : Fixture} (h : toWxr fixture = toWxr fixture')
    (site : W) :
    runImport wp (toImportJson digest fixture) site =
      runImport wp (toImportJson digest fixture') site := by
  rw [← runImport_visible wp digest fixture,
    ← runImport_visible wp digest fixture', visible_eq_of_toWxr_eq h]

end Script

/-! ## The literal -/

/-- Reads a literal in single quotes from after the opening one: its value, and
what follows the closing quote. -/
def readSingleQuoted : List Char → Option (List Char × List Char)
  | [] => none
  | '\'' :: rest => some ([], rest)
  | '\\' :: '\\' :: rest =>
      (readSingleQuoted rest).map fun r => ('\\' :: r.1, r.2)
  | '\\' :: '\'' :: rest =>
      (readSingleQuoted rest).map fun r => ('\'' :: r.1, r.2)
  | c :: rest => (readSingleQuoted rest).map fun r => (c :: r.1, r.2)

def escapePhpChar (c : Char) : List Char :=
  if c = '\\' then ['\\', '\\']
  else if c = '\'' then ['\\', '\'']
  else [c]

/-- The backslashes that are put before quotes are not doubled. -/
theorem escapePhpSingleQuoted_eq (text : List Char) :
    escapePhpSingleQuoted text = text.flatMap escapePhpChar := by
  rw [escapePhpSingleQuoted, replace, replace, replaceFrom_singleton,
    replaceFrom_singleton, List.flatMap_assoc]
  refine List.flatMap_congr fun c _ => ?_
  rw [escapePhpChar]
  split_ifs with hbackslash hquote
  · rfl
  · rw [hquote]
    rfl
  · rw [List.flatMap_singleton, if_neg hquote]

theorem readSingleQuoted_escaped (text rest : List Char) :
    readSingleQuoted (escapePhpSingleQuoted text ++ '\'' :: rest) =
      some (text, rest) := by
  rw [escapePhpSingleQuoted_eq]
  induction text with
  | nil => rw [List.flatMap_nil, List.nil_append, readSingleQuoted]
  | cons c text ih =>
      rw [List.flatMap_cons, List.append_assoc, escapePhpChar]
      split_ifs with hbackslash hquote
      · subst hbackslash
        show readSingleQuoted ('\\' :: '\\' ::
          (text.flatMap escapePhpChar ++ '\'' :: rest)) = _
        rw [readSingleQuoted, ih]
        rfl
      · subst hquote
        show readSingleQuoted ('\\' :: '\'' ::
          (text.flatMap escapePhpChar ++ '\'' :: rest)) = _
        rw [readSingleQuoted, ih]
        rfl
      · show readSingleQuoted
          (c :: (text.flatMap escapePhpChar ++ '\'' :: rest)) = _
        rw [readSingleQuoted, ih]
        · rfl
        · exact hquote
        · exact fun _ h => absurd h hbackslash
        · exact fun _ h => absurd h hbackslash

/-- The script up to the literal. -/
def beforeLiteral (preludeText : List Char) : List Char :=
  "<?php\n".toList ++ preludeText ++ "\n$darcbench_json = '".toList

theorem toPhpImport_eq (preludeText bodyText : List Char)
    (jsonText : Json ℕ → List Char) (digest : List Char → String)
    (fixture : Fixture) :
    toPhpImport preludeText bodyText jsonText digest fixture =
      beforeLiteral preludeText ++
        (escapePhpSingleQuoted (jsonText (toImportJson digest fixture)) ++
          '\'' :: (";\n".toList ++ bodyText ++ "\n".toList)) := by
  have hassoc : ∀ start escaped tail body last : List Char,
      start ++ escaped ++ tail ++ body ++ last =
        start ++ (escaped ++ (tail ++ body ++ last)) := by
    intro start escaped tail body last
    simp only [List.append_assoc]
  have htail : "';\n".toList = '\'' :: ";\n".toList := by decide
  refine (hassoc _ _ _ _ _).trans ?_
  rw [htail]
  rfl

/-- A reader of documents gives back all of a fixture but the category and the
tags of its pages, which the script does not use: fixtures of one document are
inserted alike.  The literal of the script ends at its closing quote and is the
corpus. -/
theorem fixture_pinned :
    (∀ fixture : Fixture, readWxr (toWxr fixture) = some fixture.visible) ∧
    (∀ (digest : List Char → String) (fixture fixture' : Fixture),
      toWxr fixture = toWxr fixture' →
      ∀ (W : Type) (wp : WordPress W) (site : W),
        runImport wp (toImportJson digest fixture) site =
          runImport wp (toImportJson digest fixture') site) ∧
    ∀ (preludeText bodyText : List Char) (jsonText : Json ℕ → List Char)
      (digest : List Char → String) (fixture : Fixture),
      ∃ literal : List Char,
        toPhpImport preludeText bodyText jsonText digest fixture =
          beforeLiteral preludeText ++ literal ∧
        readSingleQuoted literal =
          some (jsonText (toImportJson digest fixture),
            ";\n".toList ++ bodyText ++ "\n".toList) := by
  refine ⟨readWxr_toWxr, ?_, ?_⟩
  · intro digest fixture fixture' h W wp site
    exact runImport_eq_of_toWxr_eq wp digest h site
  · intro preludeText bodyText jsonText digest fixture
    exact ⟨_, toPhpImport_eq preludeText bodyText jsonText digest fixture,
      readSingleQuoted_escaped _ _⟩

/-! ## Pages -/

/-- A page with a tag. -/
def taggedPage (tags : List String) : Fixture where
  size := .small
  authors := []
  categories := []
  tags := []
  posts :=
    [{ id := 1
       title := "About"
       slug := "about"
       body := ""
       excerpt := ""
       date := "2024-01-01 00:00:00"
       author := "editor"
       category := "news"
       tags := tags
       comments := []
       kind := .page }]

theorem toWxr_taggedPage (tags : List String) :
    toWxr (taggedPage tags) = toWxr (taggedPage []) := by
  rw [← toWxr_visible, ← toWxr_visible (taggedPage [])]
  rfl

/-- No reader recovers every field: the document of a page does not have its
tags. -/
theorem not_recovered :
    ¬ ∃ reader : List Char → Option Fixture,
      ∀ fixture : Fixture, reader (toWxr fixture) = some fixture := by
  rintro ⟨reader, hreader⟩
  have hsame := hreader (taggedPage ["tag-1"])
  rw [toWxr_taggedPage, hreader (taggedPage [])] at hsame
  have htags := congrArg (fun fixture => fixture.posts.map Post.tags)
    (Option.some.inj hsame)
  simp [taggedPage] at htags

end Darcbench.WordpressFixture
