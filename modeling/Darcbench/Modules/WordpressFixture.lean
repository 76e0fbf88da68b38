import Darcbench.Support.Json
import Darcbench.Support.Xml

/-!
# The fixture of a WordPress site

A corpus of posts is written as a WXR document, whose digest identifies it, and
as a script that inserts it through the functions of WordPress.
-/

namespace Darcbench.WordpressFixture

/-! ## The corpus -/

inductive FixtureSize where
  | small
  | standard
  deriving DecidableEq

def FixtureSize.asStr : FixtureSize → String
  | small => "small"
  | standard => "standard"

structure Author where
  login : String
  displayName : String
  email : String

structure Term where
  slug : String
  name : String

structure Comment where
  id : ℕ
  author : String
  email : String
  body : String
  date : String
  /-- Zero, or the comment that is replied to. -/
  parent : ℕ

inductive PostKind where
  | post
  | page
  deriving DecidableEq

def PostKind.asStr : PostKind → String
  | post => "post"
  | page => "page"

structure Post where
  id : ℕ
  title : String
  slug : String
  body : String
  excerpt : String
  date : String
  author : String
  category : String
  tags : List String
  comments : List Comment
  kind : PostKind

structure Fixture where
  size : FixtureSize
  authors : List Author
  categories : List Term
  tags : List Term
  posts : List Post

def fixtureVersion : String := "1.0.0"

def siteUrl : String := "https://example.com"

/-! ## Escaping -/

/-- Replaces a pattern after a number of characters that belong to the last
one. -/
def replaceFrom (pattern replacement : List Char) :
    ℕ → List Char → List Char
  | _, [] => []
  | skip + 1, _ :: rest => replaceFrom pattern replacement skip rest
  | 0, c :: rest =>
      if pattern.isPrefixOf (c :: rest) then
        replacement ++
          replaceFrom pattern replacement (pattern.length - 1) rest
      else
        c :: replaceFrom pattern replacement 0 rest

/-- Replaces every occurrence of a pattern, from the left. -/
def replace (pattern replacement text : List Char) : List Char :=
  replaceFrom pattern replacement 0 text

/-- Wraps a text in a section of character data. -/
def cdata (text : String) : List Char :=
  "<![CDATA[".toList ++
    replace "]]>".toList "]]]]><![CDATA[>".toList text.toList ++ "]]>".toList

def escapeXmlChar (c : Char) : List Char :=
  if c = '&' then "&amp;".toList
  else if c = '<' then "&lt;".toList
  else if c = '>' then "&gt;".toList
  else if c = '"' then "&quot;".toList
  else if c = '\'' then "&apos;".toList
  else [c]

/-- Escapes the characters that XML has entities for. -/
def escapeXml (text : String) : List Char :=
  text.toList.flatMap escapeXmlChar

/-- Escapes a text for a literal of PHP in single quotes. -/
def escapePhpSingleQuoted (text : List Char) : List Char :=
  replace ['\''] ['\\', '\''] (replace ['\\'] ['\\', '\\'] text)

/-! ## The document -/

def decimal (n : ℕ) : List Char :=
  Nat.toDigits 10 n

def openTag (name : String) : List Char :=
  '<' :: name.toList ++ ['>']

def closeTag (name : String) : List Char :=
  '<' :: '/' :: name.toList ++ ['>']

def element (name : String) (content : List Char) : List Char :=
  openTag name ++ content ++ closeTag name

def spaces (indent : ℕ) : List Char :=
  List.replicate indent ' '

/-- Something on a line of its own. -/
def line (indent : ℕ) (content : List Char) : List Char :=
  spaces indent ++ content ++ ['\n']

/-- An element whose tags stand on lines of their own. -/
def block (indent : ℕ) (name : String) (content : List Char) : List Char :=
  line indent (element name (['\n'] ++ content ++ spaces indent))

def renderAuthor (id : ℕ) (author : Author) : List Char :=
  block 2 "wp:author"
    (line 4 (element "wp:author_id" (decimal id)) ++
      line 4 (element "wp:author_login" (cdata author.login)) ++
      line 4 (element "wp:author_email" (cdata author.email)) ++
      line 4 (element "wp:author_display_name" (cdata author.displayName)))

/-- The name of an element for terms, and the element for their slugs. -/
structure TermElement where
  name : String
  slugName : String

def categoryElement : TermElement := ⟨"wp:category", "wp:category_slug"⟩

def tagElement : TermElement := ⟨"wp:tag", "wp:tag_slug"⟩

def renderTerm (kind : TermElement) (term : Term) : List Char :=
  block 2 kind.name
    (line 4 (element kind.slugName (escapeXml term.slug)) ++
      line 4 (element "wp:cat_name" (cdata term.name)))

/-- A category or a tag of a post. -/
def renderPostTerm (domain text : String) : List Char :=
  line 4 ("<category domain=\"".toList ++ domain.toList ++
    "\" nicename=\"".toList ++ escapeXml text ++ "\">".toList ++
    cdata text ++ closeTag "category")

def renderComment (comment : Comment) : List Char :=
  block 4 "wp:comment"
    (line 6 (element "wp:comment_id" (decimal comment.id)) ++
      line 6 (element "wp:comment_author" (cdata comment.author)) ++
      line 6 (element "wp:comment_author_email" (cdata comment.email)) ++
      line 6 (element "wp:comment_date" (escapeXml comment.date)) ++
      line 6 (element "wp:comment_content" (cdata comment.body)) ++
      line 6 (element "wp:comment_approved" ['1']) ++
      line 6 (element "wp:comment_parent" (decimal comment.parent)))

/-- The lines of an item that every kind of item has. -/
def renderFields (post : Post) : List Char :=
  line 4 (element "title" (cdata post.title)) ++
  line 4 (element "link"
    (siteUrl.toList ++ ['/'] ++ escapeXml post.slug ++ ['/'])) ++
  line 4 (element "dc:creator" (cdata post.author)) ++
  line 4 ("<guid isPermaLink=\"false\">".toList ++
    (siteUrl.toList ++ "/?p=".toList ++ decimal post.id) ++
    closeTag "guid") ++
  line 4 (element "description" []) ++
  line 4 (element "content:encoded" (cdata post.body)) ++
  line 4 (element "excerpt:encoded" (cdata post.excerpt)) ++
  line 4 (element "wp:post_id" (decimal post.id)) ++
  line 4 (element "wp:post_date" (escapeXml post.date)) ++
  line 4 (element "wp:post_name" (escapeXml post.slug)) ++
  line 4 (element "wp:status" "publish".toList) ++
  line 4 (element "wp:post_type" post.kind.asStr.toList) ++
  line 4 (element "wp:comment_status" "open".toList)

def renderTerms (post : Post) : List Char :=
  if post.kind = .post then
    renderPostTerm "category" post.category ++
      post.tags.flatMap (renderPostTerm "post_tag")
  else []

def renderItem (post : Post) : List Char :=
  block 2 "item"
    (renderFields post ++ renderTerms post ++
      post.comments.flatMap renderComment)

/-- What stands before the first element. -/
def prolog : List Char :=
  "<?xml version=\"1.0\" encoding=\"UTF-8\"?>\n".toList ++
  "<!-- Generated by DARCBench. Deterministic benchmark content; ".toList ++
  "not a real site. -->\n".toList

def rssTag : List Char :=
  "<rss version=\"2.0\"\n".toList ++
  "    xmlns:content=\"http://purl.org/rss/1.0/modules/content/\"\n".toList ++
  "    xmlns:dc=\"http://purl.org/dc/elements/1.1/\"\n".toList ++
  "    xmlns:wp=\"http://wordpress.org/export/1.2/\">".toList

def title (size : FixtureSize) : String :=
  "DARCBench fixture " ++ fixtureVersion ++ " (" ++ size.asStr ++ ")"

def renderHeader (size : FixtureSize) : List Char :=
  line 2 (element "title" (title size).toList) ++
  line 2 (element "link" siteUrl.toList) ++
  line 2 (element "description"
    "Deterministic benchmark content".toList) ++
  line 2 (element "language" "en-US".toList) ++
  line 2 (element "wp:wxr_version" "1.2".toList) ++
  line 2 (element "wp:base_site_url" siteUrl.toList) ++
  line 2 (element "wp:base_blog_url" siteUrl.toList)

def renderAuthors (authors : List Author) : List Char :=
  authors.zipIdx.flatMap fun entry => renderAuthor (entry.2 + 1) entry.1

/-- The corpus as a WordPress eXtended RSS document. -/
def toWxr (fixture : Fixture) : List Char :=
  prolog ++
  line 0 (rssTag ++
    (['\n'] ++
      block 0 "channel"
        (renderHeader fixture.size ++
          renderAuthors fixture.authors ++
          fixture.categories.flatMap (renderTerm categoryElement) ++
          fixture.tags.flatMap (renderTerm tagElement) ++
          fixture.posts.flatMap renderItem)) ++
    closeTag "rss")

/-! ## The script -/

def termJson (term : Term) : Json ℕ :=
  .ofFields [("slug", .string term.slug), ("name", .string term.name)]

def commentJson (comment : Comment) : Json ℕ :=
  .ofFields
    [("id", .number comment.id),
     ("author", .string comment.author),
     ("email", .string comment.email),
     ("body", .string comment.body),
     ("date", .string comment.date),
     ("parent", .number comment.parent)]

def postJson (post : Post) : Json ℕ :=
  .ofFields
    [("title", .string post.title),
     ("slug", .string post.slug),
     ("body", .string post.body),
     ("excerpt", .string post.excerpt),
     ("date", .string post.date),
     ("author", .string post.author),
     ("category", .string post.category),
     ("tags", .array (post.tags.map .string)),
     ("kind", .string post.kind.asStr),
     ("comments", .array (post.comments.map commentJson))]

/-- The corpus as the script takes it, under the digest of the document. -/
def toImportJson (digest : List Char → String) (fixture : Fixture) :
    Json ℕ :=
  .ofFields
    [("fixture_version", .string fixtureVersion),
     ("size", .string fixture.size.asStr),
     ("checksum", .string (digest (toWxr fixture))),
     ("categories", .array (fixture.categories.map termJson)),
     ("tags", .array (fixture.tags.map termJson)),
     ("posts", .array (fixture.posts.map postJson))]

/-- The script, with the corpus in a literal between its two constant parts.
How a tree is written as text is up to the JSON library. -/
def toPhpImport (preludeText bodyText : List Char)
    (jsonText : Json ℕ → List Char) (digest : List Char → String)
    (fixture : Fixture) : List Char :=
  "<?php\n".toList ++ preludeText ++ "\n$darcbench_json = '".toList ++
    escapePhpSingleQuoted (jsonText (toImportJson digest fixture)) ++
    "';\n".toList ++ bodyText ++ "\n".toList

/-! ## Running the script -/

/-- The members that the script passes to insert a post. -/
structure PostArguments where
  postTitle : Json ℕ
  postName : Json ℕ
  postContent : Json ℕ
  postExcerpt : Json ℕ
  postDate : Json ℕ
  postType : Json ℕ

structure CommentArguments where
  commentPostId : ℕ
  commentAuthor : Json ℕ
  commentAuthorEmail : Json ℕ
  commentContent : Json ℕ
  commentDate : Json ℕ
  commentParent : ℕ

/-- The functions of WordPress, over the states of a site.  An insertion that
fails gives no number. -/
structure WordPress (W : Type) where
  termExists : W → Json ℕ → String → Bool
  insertTerm : W → Json ℕ → String → Json ℕ → W
  insertPost : W → PostArguments → W × Option ℕ
  setObjectTerms : W → ℕ → List (Json ℕ) → String → W
  insertComment : W → CommentArguments → W × Option ℕ

/-- How the script ends. -/
inductive Outcome (W : Type) where
  | failed (site : W)
  | finished (site : W) (posts comments : ℕ) (checksum : Json ℕ)

section Script

variable {W : Type} (wp : WordPress W)

/-- The member of an array under a key. -/
def at? (data : Json ℕ) (key : String) : Json ℕ :=
  (data.get? key).getD .null

def items : Json ℕ → List (Json ℕ)
  | .array values => values
  | _ => []

/-- Whether the language takes a value for empty. -/
def isEmpty : Json ℕ → Bool
  | .null | .bool false | .array [] => true
  | .number n => n = 0
  | .string s => s = "" || s = "0"
  | _ => false

def insertTerms (taxonomy : String) (terms : List (Json ℕ)) (site : W) : W :=
  terms.foldl
    (fun site term =>
      if wp.termExists site (at? term "slug") taxonomy then site
      else wp.insertTerm site (at? term "name") taxonomy (at? term "slug"))
    site

/-- The comments so far: the site, the numbers they were given, and how many
there are. -/
structure Commenting (W : Type) where
  site : W
  mapped : List (ℕ × ℕ)
  comments : ℕ

/-- The number that a comment was given, if the value is the number of one. -/
def mapped? (mapped : List (ℕ × ℕ)) : Json ℕ → Option ℕ
  | .number id => mapped.lookup id
  | _ => none

def insertComment (post : ℕ) (state : Commenting W) (comment : Json ℕ) :
    Commenting W :=
  let parent :=
    if isEmpty (at? comment "parent") then 0
    else (mapped? state.mapped (at? comment "parent")).getD 0
  let (site, inserted) := wp.insertComment state.site
    { commentPostId := post
      commentAuthor := at? comment "author"
      commentAuthorEmail := at? comment "email"
      commentContent := at? comment "body"
      commentDate := at? comment "date"
      commentParent := parent }
  match inserted, at? comment "id" with
  | some number, .number id =>
      { site := site
        mapped := (id, number) :: state.mapped
        comments := state.comments + 1 }
  | some _, _ =>
      { state with site := site, comments := state.comments + 1 }
  | none, _ => { state with site := site }

/-- The categories and tags of an item that is a post. -/
def setTerms (post : ℕ) (item : Json ℕ) (site : W) : W :=
  match at? item "kind" with
  | .string "post" =>
      let site := wp.setObjectTerms site post [at? item "category"] "category"
      if isEmpty (at? item "tags") then site
      else wp.setObjectTerms site post (items (at? item "tags")) "post_tag"
  | _ => site

/-- Inserts the items one by one, until one cannot be inserted. -/
def insertItems (checksum : Json ℕ) :
    List (Json ℕ) → W → ℕ → ℕ → Outcome W
  | [], site, posts, comments => .finished site posts comments checksum
  | item :: rest, site, posts, comments =>
      match wp.insertPost site
        { postTitle := at? item "title"
          postName := at? item "slug"
          postContent := at? item "body"
          postExcerpt := at? item "excerpt"
          postDate := at? item "date"
          postType := at? item "kind" } with
      | (site, none) => .failed site
      | (site, some post) =>
          let state := (items (at? item "comments")).foldl
            (insertComment wp post)
            { site := setTerms wp post item site
              mapped := []
              comments := comments }
          insertItems checksum rest state.site (posts + 1) state.comments

/-- The script, on the decoded corpus. -/
def runImport (darcbench : Json ℕ) (site : W) : Outcome W :=
  match darcbench with
  | .array _ | .object _ _ =>
      let site := insertTerms wp "category"
        (items (at? darcbench "categories")) site
      let site := insertTerms wp "post_tag" (items (at? darcbench "tags")) site
      insertItems wp (at? darcbench "checksum") (items (at? darcbench "posts"))
        site 0 0
  | _ => .failed site

end Script

end Darcbench.WordpressFixture
