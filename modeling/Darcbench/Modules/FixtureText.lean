import Darcbench.Modules.WordpressFixture
import Darcbench.Protocol.ParseFloat
import Darcbench.Support.Lists

/-!
# What the text of a fixture says

The document of a fixture is read back.  All that the script inserts is
recovered, and of the fixture only the category and the tags of pages are not.
-/

namespace Darcbench.WordpressFixture

/-! ## Reading a document -/

/-- The elements of a name, as what they hold. -/
def elements (name : String) (nodes : List Xml.Node) :
    List (List Xml.Node) :=
  Xml.named name.toList nodes

/-- The text of the first element of a name. -/
def field (name : String) (nodes : List Xml.Node) : Option String :=
  (elements name nodes).head?.map fun inner => String.ofList (Xml.text inner)

def number (name : String) (nodes : List Xml.Node) : Option ℕ :=
  (field name nodes).bind fun value => F64.parseDigits value.toList

/-- The categories of a post in a domain. -/
def classified (domain : String) (nodes : List Xml.Node) : List String :=
  nodes.filterMap fun
    | .char _ => none
    | .element tag inner =>
        if tag.name = "category".toList ∧
            ("domain".toList, domain.toList) ∈ tag.attributes then
          some (String.ofList (Xml.text inner))
        else none

def readAuthor (nodes : List Xml.Node) : Option Author := do
  let login ← field "wp:author_login" nodes
  let displayName ← field "wp:author_display_name" nodes
  let email ← field "wp:author_email" nodes
  return { login, displayName, email }

def readTerm (kind : TermElement) (nodes : List Xml.Node) : Option Term := do
  let slug ← field kind.slugName nodes
  let name ← field "wp:cat_name" nodes
  return { slug, name }

def readComment (nodes : List Xml.Node) : Option Comment := do
  let id ← number "wp:comment_id" nodes
  let author ← field "wp:comment_author" nodes
  let email ← field "wp:comment_author_email" nodes
  let body ← field "wp:comment_content" nodes
  let date ← field "wp:comment_date" nodes
  let parent ← number "wp:comment_parent" nodes
  return { id, author, email, body, date, parent }

def readKind (nodes : List Xml.Node) : Option PostKind :=
  [PostKind.post, PostKind.page].find? fun kind =>
    field "wp:post_type" nodes = some kind.asStr

def readItem (nodes : List Xml.Node) : Option Post := do
  let id ← number "wp:post_id" nodes
  let title ← field "title" nodes
  let slug ← field "wp:post_name" nodes
  let body ← field "content:encoded" nodes
  let excerpt ← field "excerpt:encoded" nodes
  let date ← field "wp:post_date" nodes
  let author ← field "dc:creator" nodes
  let kind ← readKind nodes
  let comments ← (elements "wp:comment" nodes).mapM readComment
  return {
    id, title, slug, body, excerpt, date, author, comments, kind
    category := (classified "category" nodes).headD ""
    tags := classified "post_tag" nodes }

def readSize (nodes : List Xml.Node) : Option FixtureSize :=
  [FixtureSize.small, FixtureSize.standard].find? fun size =>
    field "title" nodes = some (title size)

def readChannel (nodes : List Xml.Node) : Option Fixture := do
  let size ← readSize nodes
  let authors ← (elements "wp:author" nodes).mapM readAuthor
  let categories ← (elements categoryElement.name nodes).mapM
    (readTerm categoryElement)
  let tags ← (elements tagElement.name nodes).mapM
    (readTerm tagElement)
  let posts ← (elements "item" nodes).mapM readItem
  return { size, authors, categories, tags, posts }

/-- The fixture of a document: adjacent sections of character data are one
text, and entities are replaced. -/
def readWxr (document : List Char) : Option Fixture := do
  let forest ← Xml.read document
  let rss ← (elements "rss" forest).head?
  let channel ← (elements "channel" rss).head?
  readChannel channel

/-- A post, less what the document of a page leaves out. -/
def Post.visible (post : Post) : Post :=
  if post.kind = .post then post else { post with category := "", tags := [] }

/-- What of a fixture is in its document. -/
def Fixture.visible (fixture : Fixture) : Fixture :=
  { fixture with posts := fixture.posts.map Post.visible }

/-! ## Escaped texts -/

theorem replaceFrom_singleton (c : Char) (replacement text : List Char) :
    replaceFrom [c] replacement 0 text =
      text.flatMap fun d => if d = c then replacement else [d] := by
  induction text with
  | nil => rfl
  | cons d rest ih =>
      by_cases hd : d = c
      · rw [replaceFrom, if_pos (by simp [hd]), List.flatMap_cons, if_pos hd]
        exact congrArg (replacement ++ ·) ih
      · rw [replaceFrom, if_neg (by simpa using Ne.symm hd),
          List.flatMap_cons, if_neg hd, ih]
        rfl

theorem replaceFrom_end (text : List Char) :
    replaceFrom [']', ']', '>']
        [']', ']', ']', ']', '>', '<', '!', '[', 'C', 'D', 'A', 'T', 'A', '[',
          '>'] 0 text =
      Xml.splitEnds text := by
  induction text using Xml.splitEnds.induct with
  | case1 rest ih =>
      rw [Xml.splitEnds, ← ih]
      rfl
  | case2 c rest hne ih =>
      have hnot : ¬ [']', ']', '>'].isPrefixOf (c :: rest) = true := by
        intro hprefix
        obtain ⟨rest', hrest'⟩ := List.isPrefixOf_iff_prefix.mp hprefix
        obtain ⟨hc, hrest⟩ := List.cons.inj hrest'
        exact hne rest' hc.symm hrest.symm
      rw [Xml.splitEnds.eq_2 c rest hne, ← ih, replaceFrom, if_neg hnot]
  | case3 => rfl

/-- The ends of sections are taken apart. -/
theorem replace_end (text : List Char) :
    replace "]]>".toList "]]]]><![CDATA[>".toList text =
      Xml.splitEnds text := by
  rw [replace, String.toList_ofList, String.toList_ofList, replaceFrom_end]

theorem denotes_cdata (text : String) :
    Xml.Denotes (cdata text) (text.toList.map .char) := by
  have hstart : "<![CDATA[".toList = '<' :: '!' :: Xml.cdataStart := by decide
  have hend : "]]>".toList = [']', ']', '>'] := by decide
  have hpiece : cdata text =
      "<![CDATA[".toList ++ Xml.splitEnds text.toList ++ "]]>".toList :=
    congrArg ("<![CDATA[".toList ++ · ++ "]]>".toList)
      (replace_end text.toList)
  rw [hpiece, hstart, hend]
  exact Xml.denotes_cdata text.toList

theorem denotes_escapeXmlChar (c : Char) :
    Xml.Denotes (escapeXmlChar c) [.char c] := by
  have hentity : ∀ piece : List Char,
      Xml.scan .text piece = (.text, [.text c]) →
      Xml.Denotes piece [.char c] :=
    fun piece h => @Xml.denotes_of_text piece [c] h
  rw [escapeXmlChar]
  split_ifs with hamp hlt hgt hquot hapos
  · subst hamp
    exact hentity _ rfl
  · subst hlt
    exact hentity _ rfl
  · subst hgt
    exact hentity _ rfl
  · subst hquot
    exact hentity _ rfl
  · subst hapos
    exact hentity _ rfl
  · exact Xml.denotes_char hlt hamp

theorem denotes_escapeXml (text : String) :
    Xml.Denotes (escapeXml text) (text.toList.map .char) := by
  rw [escapeXml, List.map_eq_flatMap]
  exact Xml.denotes_flatMap fun c _ => denotes_escapeXmlChar c

/-- Within the quotes of an attribute a character is what it is escaped
from. -/
theorem scan_value_escapeXmlChar (tag : Xml.Tag) (name read : List Char)
    (c : Char) :
    Xml.scan (.value tag name '"' read) (escapeXmlChar c) =
      (.value tag name '"' (read ++ [c]), []) := by
  rw [escapeXmlChar]
  split_ifs with hamp hlt hgt hquot hapos
  · subst hamp
    rfl
  · subst hlt
    rfl
  · subst hgt
    rfl
  · subst hquot
    rfl
  · subst hapos
    rfl
  · rw [Xml.scan, Xml.step, if_neg hquot, if_neg hamp]
    rfl

theorem denotes_decimal (n : ℕ) :
    Xml.Denotes (decimal n) ((decimal n).map .char) := by
  refine Xml.IsPlain.denotes fun c hc => ?_
  have hdigit := F64.isDigit_of_mem_toDigits hc
  constructor
  · rintro rfl
    exact absurd hdigit (by decide)
  · rintro rfl
    exact absurd hdigit (by decide)

/-! ## The nodes of a document -/

def lineNodes (indent : ℕ) (nodes : List Xml.Node) : List Xml.Node :=
  (spaces indent).map .char ++ nodes ++ [.char '\n']

/-- What an element holds whose tags stand on lines of their own. -/
def within (indent : ℕ) (nodes : List Xml.Node) : List Xml.Node :=
  [.char '\n'] ++ nodes ++ (spaces indent).map .char

def blockNodes (indent : ℕ) (name : String) (nodes : List Xml.Node) :
    List Xml.Node :=
  lineNodes indent [.element ⟨name.toList, []⟩ (within indent nodes)]

/-- A line with an element that holds a text. -/
def leafNodes (indent : ℕ) (name : String) (content : List Char) :
    List Xml.Node :=
  lineNodes indent [.element ⟨name.toList, []⟩ (content.map .char)]

theorem denotes_spaces (indent : ℕ) :
    Xml.Denotes (spaces indent) ((spaces indent).map .char) := by
  refine Xml.IsPlain.denotes fun c hc => ?_
  rw [List.eq_of_mem_replicate hc]
  decide

theorem denotes_line {piece : List Char} {nodes : List Xml.Node}
    (indent : ℕ) (h : Xml.Denotes piece nodes) :
    Xml.Denotes (line indent piece) (lineNodes indent nodes) :=
  ((denotes_spaces indent).append h).append
    (Xml.denotes_char (by decide) (by decide))

theorem denotes_block {piece : List Char} {nodes : List Xml.Node}
    {name : String} (indent : ℕ) (hname : Xml.IsName name.toList)
    (h : Xml.Denotes piece nodes) :
    Xml.Denotes (block indent name piece) (blockNodes indent name nodes) := by
  have hnewline : Xml.Denotes ['\n'] [.char '\n'] :=
    Xml.denotes_char (by decide) (by decide)
  exact denotes_line indent
    (((hnewline.append h).append (denotes_spaces indent)).named hname)

theorem denotes_leaf {piece content : List Char} {name : String}
    (indent : ℕ) (hname : Xml.IsName name.toList)
    (h : Xml.Denotes piece (content.map .char)) :
    Xml.Denotes (line indent (element name piece))
      (leafNodes indent name content) :=
  denotes_line indent (h.named hname)

theorem denotes_append {first second text text' : List Char}
    (h : Xml.Denotes first (text.map .char))
    (h' : Xml.Denotes second (text'.map .char)) :
    Xml.Denotes (first ++ second) ((text ++ text').map .char) := by
  rw [List.map_append]
  exact h.append h'

def authorNodes (id : ℕ) (author : Author) : List Xml.Node :=
  leafNodes 4 "wp:author_id" (decimal id) ++
  leafNodes 4 "wp:author_login" author.login.toList ++
  leafNodes 4 "wp:author_email" author.email.toList ++
  leafNodes 4 "wp:author_display_name" author.displayName.toList

theorem denotes_renderAuthor (id : ℕ) (author : Author) :
    Xml.Denotes (renderAuthor id author)
      (blockNodes 2 "wp:author" (authorNodes id author)) := by
  have hid := denotes_leaf 4 (show Xml.IsName "wp:author_id".toList by decide)
    (denotes_decimal id)
  have hlogin := denotes_leaf 4
    (show Xml.IsName "wp:author_login".toList by decide)
    (denotes_cdata author.login)
  have hemail := denotes_leaf 4
    (show Xml.IsName "wp:author_email".toList by decide)
    (denotes_cdata author.email)
  have hname := denotes_leaf 4
    (show Xml.IsName "wp:author_display_name".toList by decide)
    (denotes_cdata author.displayName)
  exact denotes_block 2 (by decide)
    (((hid.append hlogin).append hemail).append hname)

def termNodes (kind : TermElement) (term : Term) : List Xml.Node :=
  leafNodes 4 kind.slugName term.slug.toList ++
  leafNodes 4 "wp:cat_name" term.name.toList

theorem denotes_renderTerm {kind : TermElement} (term : Term)
    (hname : Xml.IsName kind.name.toList)
    (hslug : Xml.IsName kind.slugName.toList) :
    Xml.Denotes (renderTerm kind term)
      (blockNodes 2 kind.name (termNodes kind term)) := by
  have htext := denotes_leaf 4
    (show Xml.IsName "wp:cat_name".toList by decide) (denotes_cdata term.name)
  exact denotes_block 2 hname
    ((denotes_leaf 4 hslug (denotes_escapeXml term.slug)).append htext)

/-- The tag of a category or a tag of a post. -/
def postTermTag (domain text : String) : Xml.Tag :=
  ⟨"category".toList,
    [("domain".toList, domain.toList), ("nicename".toList, text.toList)]⟩

def postTermNodes (domain text : String) : List Xml.Node :=
  lineNodes 4 [.element (postTermTag domain text) (text.toList.map .char)]

theorem opens_postTermTag {domain : String} (text : String)
    (hdomain : Xml.scan .text ("<category domain=\"".toList ++
      domain.toList ++ "\" nicename=\"".toList) =
        (.value ⟨"category".toList, [("domain".toList, domain.toList)]⟩
          "nicename".toList '"' [], [])) :
    Xml.Opens ("<category domain=\"".toList ++ domain.toList ++
      "\" nicename=\"".toList ++ escapeXml text ++ "\">".toList)
      (postTermTag domain text) := by
  have hvalue := Xml.scan_value scan_value_escapeXmlChar text.toList
    ⟨"category".toList, [("domain".toList, domain.toList)]⟩
    "nicename".toList []
  rw [Xml.Opens, List.append_assoc, Xml.scan_append_of_eq hdomain, escapeXml,
    Xml.scan_append_of_eq hvalue]
  rfl

theorem denotes_renderPostTerm {domain : String} (text : String)
    (hdomain : Xml.scan .text ("<category domain=\"".toList ++
      domain.toList ++ "\" nicename=\"".toList) =
        (.value ⟨"category".toList, [("domain".toList, domain.toList)]⟩
          "nicename".toList '"' [], [])) :
    Xml.Denotes (renderPostTerm domain text) (postTermNodes domain text) := by
  have hcloses : Xml.Closes (closeTag "category") "category".toList := by
    decide
  exact denotes_line 4
    ((denotes_cdata text).element (opens_postTermTag text hdomain) hcloses)

def commentNodes (comment : Comment) : List Xml.Node :=
  leafNodes 6 "wp:comment_id" (decimal comment.id) ++
  leafNodes 6 "wp:comment_author" comment.author.toList ++
  leafNodes 6 "wp:comment_author_email" comment.email.toList ++
  leafNodes 6 "wp:comment_date" comment.date.toList ++
  leafNodes 6 "wp:comment_content" comment.body.toList ++
  leafNodes 6 "wp:comment_approved" ['1'] ++
  leafNodes 6 "wp:comment_parent" (decimal comment.parent)

theorem denotes_renderComment (comment : Comment) :
    Xml.Denotes (renderComment comment)
      (blockNodes 4 "wp:comment" (commentNodes comment)) := by
  have hid := denotes_leaf 6
    (show Xml.IsName "wp:comment_id".toList by decide)
    (denotes_decimal comment.id)
  have hauthor := denotes_leaf 6
    (show Xml.IsName "wp:comment_author".toList by decide)
    (denotes_cdata comment.author)
  have hemail := denotes_leaf 6
    (show Xml.IsName "wp:comment_author_email".toList by decide)
    (denotes_cdata comment.email)
  have hdate := denotes_leaf 6
    (show Xml.IsName "wp:comment_date".toList by decide)
    (denotes_escapeXml comment.date)
  have hbody := denotes_leaf 6
    (show Xml.IsName "wp:comment_content".toList by decide)
    (denotes_cdata comment.body)
  have happroved := denotes_leaf 6
    (show Xml.IsName "wp:comment_approved".toList by decide)
    (Xml.IsPlain.denotes (show Xml.IsPlain ['1'] by decide))
  have hparent := denotes_leaf 6
    (show Xml.IsName "wp:comment_parent".toList by decide)
    (denotes_decimal comment.parent)
  exact denotes_block 4 (by decide)
    ((((((hid.append hauthor).append hemail).append hdate).append
      hbody).append happroved).append hparent)

def guidTag : Xml.Tag :=
  ⟨"guid".toList, [("isPermaLink".toList, "false".toList)]⟩

def guidText (id : ℕ) : List Char :=
  siteUrl.toList ++ "/?p=".toList ++ decimal id

def guidNodes (id : ℕ) : List Xml.Node :=
  lineNodes 4 [.element guidTag ((guidText id).map .char)]

/-- The nodes of an item up to its categories. -/
def fieldNodes (post : Post) : List Xml.Node :=
  leafNodes 4 "title" post.title.toList ++
  leafNodes 4 "link" (siteUrl.toList ++ ['/'] ++ post.slug.toList ++ ['/']) ++
  leafNodes 4 "dc:creator" post.author.toList ++
  guidNodes post.id ++
  leafNodes 4 "description" [] ++
  leafNodes 4 "content:encoded" post.body.toList ++
  leafNodes 4 "excerpt:encoded" post.excerpt.toList ++
  leafNodes 4 "wp:post_id" (decimal post.id) ++
  leafNodes 4 "wp:post_date" post.date.toList ++
  leafNodes 4 "wp:post_name" post.slug.toList ++
  leafNodes 4 "wp:status" "publish".toList ++
  leafNodes 4 "wp:post_type" post.kind.asStr.toList ++
  leafNodes 4 "wp:comment_status" "open".toList

theorem denotes_guid (id : ℕ) :
    Xml.Denotes
      (line 4 ("<guid isPermaLink=\"false\">".toList ++ guidText id ++
        closeTag "guid"))
      (guidNodes id) := by
  have hopens : Xml.Opens "<guid isPermaLink=\"false\">".toList guidTag := by
    decide
  have hsite := Xml.IsPlain.denotes
    (show Xml.IsPlain (siteUrl.toList ++ "/?p=".toList) by decide)
  exact denotes_line 4
    ((denotes_append hsite (denotes_decimal id)).element hopens (by decide))

theorem denotes_link (post : Post) :
    Xml.Denotes (siteUrl.toList ++ ['/'] ++ escapeXml post.slug ++ ['/'])
      ((siteUrl.toList ++ ['/'] ++ post.slug.toList ++ ['/']).map .char) := by
  have hsite := Xml.IsPlain.denotes
    (show Xml.IsPlain (siteUrl.toList ++ ['/']) by decide)
  exact denotes_append (denotes_append hsite (denotes_escapeXml post.slug))
    (Xml.IsPlain.denotes (show Xml.IsPlain ['/'] by decide))

theorem denotes_renderFields (post : Post) :
    Xml.Denotes (renderFields post) (fieldNodes post) := by
  have htitle := denotes_leaf 4 (show Xml.IsName "title".toList by decide)
    (denotes_cdata post.title)
  have hlink := denotes_leaf 4 (show Xml.IsName "link".toList by decide)
    (denotes_link post)
  have hauthor := denotes_leaf 4
    (show Xml.IsName "dc:creator".toList by decide)
    (denotes_cdata post.author)
  have hdescription := denotes_leaf 4
    (show Xml.IsName "description".toList by decide)
    (Xml.IsPlain.denotes (show Xml.IsPlain [] by decide))
  have hbody := denotes_leaf 4
    (show Xml.IsName "content:encoded".toList by decide)
    (denotes_cdata post.body)
  have hexcerpt := denotes_leaf 4
    (show Xml.IsName "excerpt:encoded".toList by decide)
    (denotes_cdata post.excerpt)
  have hid := denotes_leaf 4 (show Xml.IsName "wp:post_id".toList by decide)
    (denotes_decimal post.id)
  have hdate := denotes_leaf 4
    (show Xml.IsName "wp:post_date".toList by decide)
    (denotes_escapeXml post.date)
  have hslug := denotes_leaf 4
    (show Xml.IsName "wp:post_name".toList by decide)
    (denotes_escapeXml post.slug)
  have hstatus := denotes_leaf 4
    (show Xml.IsName "wp:status".toList by decide)
    (Xml.IsPlain.denotes (show Xml.IsPlain "publish".toList by decide))
  have hplain : Xml.IsPlain post.kind.asStr.toList := by
    cases post.kind <;> decide
  have hkind := denotes_leaf 4
    (show Xml.IsName "wp:post_type".toList by decide) hplain.denotes
  have hopen := denotes_leaf 4
    (show Xml.IsName "wp:comment_status".toList by decide)
    (Xml.IsPlain.denotes (show Xml.IsPlain "open".toList by decide))
  exact (((((((((((htitle.append hlink).append hauthor).append
    (denotes_guid post.id)).append hdescription).append
    hbody).append hexcerpt).append hid).append hdate).append hslug).append
    hstatus).append hkind).append hopen

/-- The nodes of the categories and tags of an item. -/
def postTermsNodes (post : Post) : List Xml.Node :=
  if post.kind = .post then
    postTermNodes "category" post.category ++
      post.tags.flatMap (postTermNodes "post_tag")
  else []

theorem denotes_renderTerms (post : Post) :
    Xml.Denotes (renderTerms post) (postTermsNodes post) := by
  rw [renderTerms, postTermsNodes]
  by_cases hpost : post.kind = .post
  · rw [if_pos hpost, if_pos hpost]
    exact (denotes_renderPostTerm post.category (by decide)).append
      (Xml.denotes_flatMap fun tag _ =>
        denotes_renderPostTerm tag (by decide))
  · rw [if_neg hpost, if_neg hpost]
    exact Xml.denotes_nil

def itemNodes (post : Post) : List Xml.Node :=
  fieldNodes post ++ postTermsNodes post ++
    post.comments.flatMap fun comment =>
      blockNodes 4 "wp:comment" (commentNodes comment)

theorem denotes_renderItem (post : Post) :
    Xml.Denotes (renderItem post) (blockNodes 2 "item" (itemNodes post)) :=
  denotes_block 2 (by decide)
    (((denotes_renderFields post).append (denotes_renderTerms post)).append
      (Xml.denotes_flatMap fun comment _ => denotes_renderComment comment))

def headerNodes (size : FixtureSize) : List Xml.Node :=
  leafNodes 2 "title" (title size).toList ++
  leafNodes 2 "link" siteUrl.toList ++
  leafNodes 2 "description" "Deterministic benchmark content".toList ++
  leafNodes 2 "language" "en-US".toList ++
  leafNodes 2 "wp:wxr_version" "1.2".toList ++
  leafNodes 2 "wp:base_site_url" siteUrl.toList ++
  leafNodes 2 "wp:base_blog_url" siteUrl.toList

theorem denotes_renderHeader (size : FixtureSize) :
    Xml.Denotes (renderHeader size) (headerNodes size) := by
  have hplain : Xml.IsPlain (title size).toList := by
    cases size <;> decide
  have hsite : Xml.IsPlain siteUrl.toList := by decide
  have htitle := denotes_leaf 2 (show Xml.IsName "title".toList by decide)
    hplain.denotes
  have hlink := denotes_leaf 2 (show Xml.IsName "link".toList by decide)
    hsite.denotes
  have hdescription := denotes_leaf 2
    (show Xml.IsName "description".toList by decide)
    (Xml.IsPlain.denotes
      (show Xml.IsPlain "Deterministic benchmark content".toList by decide))
  have hlanguage := denotes_leaf 2
    (show Xml.IsName "language".toList by decide)
    (Xml.IsPlain.denotes (show Xml.IsPlain "en-US".toList by decide))
  have hversion := denotes_leaf 2
    (show Xml.IsName "wp:wxr_version".toList by decide)
    (Xml.IsPlain.denotes (show Xml.IsPlain "1.2".toList by decide))
  have hbase := denotes_leaf 2
    (show Xml.IsName "wp:base_site_url".toList by decide) hsite.denotes
  have hblog := denotes_leaf 2
    (show Xml.IsName "wp:base_blog_url".toList by decide) hsite.denotes
  exact (((((htitle.append hlink).append hdescription).append
    hlanguage).append hversion).append hbase).append hblog

def channelNodes (fixture : Fixture) : List Xml.Node :=
  headerNodes fixture.size ++
  (fixture.authors.zipIdx.flatMap fun entry =>
    blockNodes 2 "wp:author" (authorNodes (entry.2 + 1) entry.1)) ++
  (fixture.categories.flatMap fun term =>
    blockNodes 2 categoryElement.name (termNodes categoryElement term)) ++
  (fixture.tags.flatMap fun term =>
    blockNodes 2 tagElement.name (termNodes tagElement term)) ++
  fixture.posts.flatMap fun post => blockNodes 2 "item" (itemNodes post)

theorem denotes_channel (fixture : Fixture) :
    Xml.Denotes
      (renderHeader fixture.size ++ renderAuthors fixture.authors ++
        fixture.categories.flatMap (renderTerm categoryElement) ++
        fixture.tags.flatMap (renderTerm tagElement) ++
        fixture.posts.flatMap renderItem)
      (channelNodes fixture) := by
  have hauthors : Xml.Denotes (renderAuthors fixture.authors)
      (fixture.authors.zipIdx.flatMap fun entry =>
        blockNodes 2 "wp:author" (authorNodes (entry.2 + 1) entry.1)) :=
    Xml.denotes_flatMap fun entry _ =>
      denotes_renderAuthor (entry.2 + 1) entry.1
  have hcategories := Xml.denotes_flatMap
    fun (term : Term) (_ : term ∈ fixture.categories) =>
      @denotes_renderTerm categoryElement term (by decide) (by decide)
  have htags := Xml.denotes_flatMap
    fun (term : Term) (_ : term ∈ fixture.tags) =>
      @denotes_renderTerm tagElement term (by decide) (by decide)
  have hposts := Xml.denotes_flatMap
    fun (post : Post) (_ : post ∈ fixture.posts) => denotes_renderItem post
  exact ((((denotes_renderHeader fixture.size).append hauthors).append
    hcategories).append htags).append hposts

def rssXmlTag : Xml.Tag :=
  ⟨"rss".toList,
    [("version".toList, "2.0".toList),
     ("xmlns:content".toList,
      "http://purl.org/rss/1.0/modules/content/".toList),
     ("xmlns:dc".toList, "http://purl.org/dc/elements/1.1/".toList),
     ("xmlns:wp".toList, "http://wordpress.org/export/1.2/".toList)]⟩

theorem denotes_prolog :
    Xml.Denotes prolog (['\n', '\n'].map .char) := by
  have hinstruction : Xml.scan .text
      "<?xml version=\"1.0\" encoding=\"UTF-8\"?>\n".toList =
        (.text, [.text '\n']) := by decide
  have hcomment : Xml.scan .text
      "<!-- Generated by DARCBench. Deterministic benchmark content; ".toList =
        (.comment 0, []) := by decide
  have hend : Xml.scan (.comment 0) "not a real site. -->\n".toList =
      (.text, [.text '\n']) := by decide
  exact Xml.denotes_of_text
    (Xml.scan_append_eq (Xml.scan_append_eq hinstruction hcomment) hend)

theorem opens_rssTag : Xml.Opens rssTag rssXmlTag := by
  have hversion : Xml.scan .text "<rss version=\"2.0\"\n".toList =
      (.beforeAttribute ⟨rssXmlTag.name, rssXmlTag.attributes.take 1⟩, []) := by
    decide
  have hcontent : Xml.scan
      (.beforeAttribute ⟨rssXmlTag.name, rssXmlTag.attributes.take 1⟩)
      ("    xmlns:content=".toList ++
        "\"http://purl.org/rss/1.0/modules/content/\"\n".toList) =
        (.beforeAttribute ⟨rssXmlTag.name, rssXmlTag.attributes.take 2⟩,
          []) := by
    decide
  have hdc : Xml.scan
      (.beforeAttribute ⟨rssXmlTag.name, rssXmlTag.attributes.take 2⟩)
      "    xmlns:dc=\"http://purl.org/dc/elements/1.1/\"\n".toList =
        (.beforeAttribute ⟨rssXmlTag.name, rssXmlTag.attributes.take 3⟩,
          []) := by
    decide
  have hwp : Xml.scan
      (.beforeAttribute ⟨rssXmlTag.name, rssXmlTag.attributes.take 3⟩)
      "    xmlns:wp=\"http://wordpress.org/export/1.2/\">".toList =
        (.text, [.start rssXmlTag]) := by
    decide
  exact Xml.scan_append_eq
    (Xml.scan_append_eq (Xml.scan_append_eq hversion hcontent) hdc) hwp

/-- The nodes of the whole document. -/
def wxrNodes (fixture : Fixture) : List Xml.Node :=
  ['\n', '\n'].map .char ++
    lineNodes 0 [.element rssXmlTag
      (['\n'].map .char ++ blockNodes 0 "channel" (channelNodes fixture))]

theorem denotes_toWxr (fixture : Fixture) :
    Xml.Denotes (toWxr fixture) (wxrNodes fixture) := by
  have hnewline := Xml.IsPlain.denotes (show Xml.IsPlain ['\n'] by decide)
  have hchannel := denotes_block 0
    (show Xml.IsName "channel".toList by decide) (denotes_channel fixture)
  have hcloses : Xml.Closes (closeTag "rss") rssXmlTag.name := by decide
  exact denotes_prolog.append (denotes_line 0
    ((hnewline.append hchannel).element opens_rssTag hcloses))

/-! ## What is read of the nodes -/

@[simp] theorem elements_append (name : String)
    (first second : List Xml.Node) :
    elements name (first ++ second) =
      elements name first ++ elements name second :=
  Xml.named_append name.toList first second

@[simp] theorem elements_flatMap {α : Type} (name : String) (values : List α)
    (f : α → List Xml.Node) :
    elements name (values.flatMap f) =
      values.flatMap fun a => elements name (f a) :=
  Xml.named_flatMap name.toList values f

@[simp] theorem elements_map_char (name : String) (chars : List Char) :
    elements name (chars.map .char) = [] :=
  Xml.named_map_char name.toList chars

@[simp] theorem elements_lineNodes (name : String) (indent : ℕ)
    (nodes : List Xml.Node) :
    elements name (lineNodes indent nodes) = elements name nodes := by
  rw [lineNodes, elements_append, elements_append, elements_map_char]
  exact List.append_nil (elements name nodes)

@[simp] theorem elements_within (name : String) (indent : ℕ)
    (nodes : List Xml.Node) :
    elements name (within indent nodes) = elements name nodes := by
  rw [within, elements_append, elements_append, elements_map_char,
    List.append_nil]
  rfl

theorem elements_line {tag : Xml.Tag} {label : String}
    (htag : tag.name = label.toList) (name : String) (indent : ℕ)
    (inner : List Xml.Node) :
    elements name (lineNodes indent [.element tag inner]) =
      if label = name then [inner] else [] := by
  rw [elements_lineNodes, elements, Xml.named_element, htag]
  simp only [String.toList_inj]

@[simp] theorem elements_leafNodes (name label : String) (indent : ℕ)
    (content : List Char) :
    elements name (leafNodes indent label content) =
      if label = name then [content.map .char] else [] :=
  elements_line rfl name indent (content.map .char)

@[simp] theorem elements_blockNodes (name label : String) (indent : ℕ)
    (nodes : List Xml.Node) :
    elements name (blockNodes indent label nodes) =
      if label = name then [within indent nodes] else [] :=
  elements_line rfl name indent (within indent nodes)

@[simp] theorem elements_postTermNodes (name domain text : String) :
    elements name (postTermNodes domain text) =
      if "category" = name then [text.toList.map .char] else [] :=
  elements_line rfl name 4 (text.toList.map .char)

@[simp] theorem elements_guidNodes (name : String) (id : ℕ) :
    elements name (guidNodes id) =
      if "guid" = name then [(guidText id).map .char] else [] :=
  elements_line rfl name 4 ((guidText id).map .char)

@[simp] theorem field_append (name : String) (first second : List Xml.Node) :
    field name (first ++ second) =
      (field name first).or (field name second) := by
  rw [field, elements_append, List.head?_append, Option.map_or]
  rfl

@[simp] theorem field_within (name : String) (indent : ℕ)
    (nodes : List Xml.Node) :
    field name (within indent nodes) = field name nodes := by
  rw [field, elements_within]
  rfl

@[simp] theorem field_leafNodes (name label : String) (indent : ℕ)
    (content : List Char) :
    field name (leafNodes indent label content) =
      if label = name then some (String.ofList content) else none := by
  rw [field, elements_leafNodes]
  split_ifs
  · rw [List.head?_cons, Option.map_some, Xml.text_map_char]
  · rfl

@[simp] theorem number_within (name : String) (indent : ℕ)
    (nodes : List Xml.Node) :
    number name (within indent nodes) = number name nodes := by
  rw [number, field_within]
  rfl

theorem number_of_field {name : String} {nodes : List Xml.Node} {n : ℕ}
    (h : field name nodes = some (String.ofList (decimal n))) :
    number name nodes = some n := by
  rw [number, h, Option.bind_some, String.toList_ofList]
  exact F64.parseDigits_toDigits n

theorem readAuthor_authorNodes (id : ℕ) (author : Author) :
    readAuthor (within 2 (authorNodes id author)) = some author := by
  simp [readAuthor, authorNodes]

theorem readTerm_termNodes (kind : TermElement) (term : Term)
    (hne : kind.slugName ≠ "wp:cat_name") :
    readTerm kind (within 2 (termNodes kind term)) = some term := by
  simp [readTerm, termNodes, hne]

theorem readComment_commentNodes (comment : Comment) :
    readComment (within 4 (commentNodes comment)) = some comment := by
  have hid : number "wp:comment_id" (commentNodes comment) =
      some comment.id :=
    number_of_field (by simp [commentNodes])
  have hparent : number "wp:comment_parent" (commentNodes comment) =
      some comment.parent :=
    number_of_field (by simp [commentNodes])
  simp only [readComment, number_within, hid, hparent]
  simp [commentNodes]

/-! ## Categories and tags -/

@[simp] theorem classified_append (domain : String)
    (first second : List Xml.Node) :
    classified domain (first ++ second) =
      classified domain first ++ classified domain second :=
  List.filterMap_append

@[simp] theorem classified_map_char (domain : String) (chars : List Char) :
    classified domain (chars.map .char) = [] := by
  rw [classified, List.filterMap_map, List.filterMap_eq_nil_iff]
  exact fun c _ => rfl

@[simp] theorem classified_lineNodes (domain : String) (indent : ℕ)
    (nodes : List Xml.Node) :
    classified domain (lineNodes indent nodes) = classified domain nodes := by
  rw [lineNodes, classified_append, classified_append, classified_map_char]
  exact List.append_nil (classified domain nodes)

@[simp] theorem classified_within (domain : String) (indent : ℕ)
    (nodes : List Xml.Node) :
    classified domain (within indent nodes) = classified domain nodes := by
  rw [within, classified_append, classified_append, classified_map_char,
    List.append_nil]
  rfl

theorem classified_element (domain : String) (tag : Xml.Tag)
    (inner : List Xml.Node) :
    classified domain [.element tag inner] =
      if tag.name = "category".toList ∧
          ("domain".toList, domain.toList) ∈ tag.attributes then
        [String.ofList (Xml.text inner)]
      else [] := by
  by_cases h : tag.name = "category".toList ∧
      ("domain".toList, domain.toList) ∈ tag.attributes
  · rw [if_pos h]
    exact List.filterMap_cons_some (if_pos h)
  · rw [if_neg h]
    exact List.filterMap_cons_none (if_neg h)

theorem classified_element_of_notMem {domain : String} {tag : Xml.Tag}
    (h : ("domain".toList, domain.toList) ∉ tag.attributes)
    (inner : List Xml.Node) :
    classified domain [.element tag inner] = [] := by
  rw [classified_element, if_neg fun hand => h hand.2]

@[simp] theorem classified_leafNodes (domain label : String) (indent : ℕ)
    (content : List Char) :
    classified domain (leafNodes indent label content) = [] := by
  rw [leafNodes, classified_lineNodes]
  exact classified_element_of_notMem List.not_mem_nil _

@[simp] theorem classified_blockNodes (domain label : String) (indent : ℕ)
    (nodes : List Xml.Node) :
    classified domain (blockNodes indent label nodes) = [] := by
  rw [blockNodes, classified_lineNodes]
  exact classified_element_of_notMem List.not_mem_nil _

@[simp] theorem classified_guidNodes (domain : String) (id : ℕ) :
    classified domain (guidNodes id) = [] := by
  rw [guidNodes, classified_lineNodes]
  refine classified_element_of_notMem ?_ _
  intro hmem
  have hname : "domain".toList = "isPermaLink".toList :=
    congrArg Prod.fst (List.mem_singleton.mp hmem)
  exact absurd hname (by decide)

@[simp] theorem classified_postTermNodes (domain domain' text : String) :
    classified domain (postTermNodes domain' text) =
      if domain' = domain then [text] else [] := by
  rw [postTermNodes, classified_lineNodes]
  by_cases hdomain : domain' = domain
  · have hmem : ("domain".toList, domain.toList) ∈
        (postTermTag domain' text).attributes :=
      hdomain ▸ List.mem_cons_self
    rw [if_pos hdomain, classified_element, if_pos ⟨rfl, hmem⟩,
      Xml.text_map_char, String.ofList_toList]
  · rw [if_neg hdomain]
    refine classified_element_of_notMem ?_ _
    intro hmem
    rcases List.mem_cons.mp hmem with heq | hrest
    · exact hdomain (String.toList_inj.mp (congrArg Prod.snd heq)).symm
    · have hname : "domain".toList = "nicename".toList :=
        congrArg Prod.fst (List.mem_singleton.mp hrest)
      exact absurd hname (by decide)

theorem classified_flatMap {α : Type} (domain : String) (values : List α)
    (f : α → List Xml.Node) :
    classified domain (values.flatMap f) =
      values.flatMap fun a => classified domain (f a) :=
  List.filterMap_flatMap

/-! ## Items and the whole fixture -/

@[simp] theorem field_guidNodes (name : String) (id : ℕ) :
    field name (guidNodes id) =
      if "guid" = name then some (String.ofList (guidText id)) else none := by
  rw [field, elements_guidNodes]
  split_ifs
  · rw [List.head?_cons, Option.map_some, Xml.text_map_char]
  · rfl

theorem readKind_itemNodes (post : Post) :
    readKind (within 2 (itemNodes post)) = some post.kind := by
  have hfield : field "wp:post_type" (within 2 (itemNodes post)) =
      some post.kind.asStr := by
    simp [itemNodes, fieldNodes]
  rw [readKind, hfield]
  cases post.kind <;> decide

theorem elements_comments (post : Post) :
    elements "wp:comment" (within 2 (itemNodes post)) =
      post.comments.map fun comment => within 4 (commentNodes comment) := by
  have hterms : elements "wp:comment" (postTermsNodes post) = [] := by
    rw [postTermsNodes]
    split_ifs
    · simp
    · rfl
  rw [List.map_eq_flatMap]
  simp [itemNodes, fieldNodes, hterms]

theorem classified_itemNodes (domain : String) (post : Post) :
    classified domain (within 2 (itemNodes post)) =
      classified domain (postTermsNodes post) := by
  simp [itemNodes, fieldNodes, classified_flatMap]

theorem category_itemNodes (post : Post) :
    (classified "category" (within 2 (itemNodes post))).headD "" =
      post.visible.category := by
  rw [classified_itemNodes, postTermsNodes, Post.visible]
  split_ifs
  · simp [classified_flatMap]
  · rfl

theorem tags_itemNodes (post : Post) :
    classified "post_tag" (within 2 (itemNodes post)) = post.visible.tags := by
  rw [classified_itemNodes, postTermsNodes, Post.visible]
  split_ifs
  · simp [classified_flatMap]
  · rfl

theorem Post.visible_eq (post : Post) :
    { post with
      category := post.visible.category
      tags := post.visible.tags } = post.visible := by
  rw [Post.visible]
  split_ifs
  · rfl
  · rfl

theorem readItem_itemNodes (post : Post) :
    readItem (within 2 (itemNodes post)) = some post.visible := by
  have hid : number "wp:post_id" (itemNodes post) = some post.id :=
    number_of_field (by simp [itemNodes, fieldNodes])
  have hcomments :
      (elements "wp:comment" (within 2 (itemNodes post))).mapM readComment =
        some post.comments := by
    rw [elements_comments]
    exact mapM_map_eq_some fun comment _ => readComment_commentNodes comment
  rw [← post.visible_eq, ← category_itemNodes, ← tags_itemNodes, readItem]
  simp only [number_within, hid, readKind_itemNodes, hcomments]
  simp [itemNodes, fieldNodes]

theorem readSize_channelNodes (fixture : Fixture) :
    readSize (within 0 (channelNodes fixture)) = some fixture.size := by
  have hfield : field "title" (within 0 (channelNodes fixture)) =
      some (title fixture.size) := by
    simp [channelNodes, headerNodes]
  rw [readSize, hfield]
  cases fixture.size <;> decide

/-- The elements of a name are those that are rendered under it. -/
theorem elements_blocks {α : Type} (name : String) (values : List α)
    (f : α → List Xml.Node) :
    elements name (values.flatMap fun a => blockNodes 2 name (f a)) =
      values.map fun a => within 2 (f a) := by
  rw [List.map_eq_flatMap]
  simp

theorem elements_blocks_of_ne {α : Type} {name label : String}
    (h : label ≠ name) (values : List α) (f : α → List Xml.Node) :
    elements name (values.flatMap fun a => blockNodes 2 label (f a)) = [] := by
  simp [h]

theorem readAuthors_channelNodes (fixture : Fixture) :
    (elements "wp:author" (within 0 (channelNodes fixture))).mapM readAuthor =
      some fixture.authors := by
  have helements : elements "wp:author" (within 0 (channelNodes fixture)) =
      fixture.authors.zipIdx.map fun entry =>
        within 2 (authorNodes (entry.2 + 1) entry.1) := by
    simp only [channelNodes, elements_within, elements_append,
      elements_blocks]
    rw [elements_blocks_of_ne (by decide), elements_blocks_of_ne (by decide),
      elements_blocks_of_ne (by decide)]
    simp [headerNodes]
  rw [helements, mapM_map_eq_some_map fun entry _ =>
    readAuthor_authorNodes (entry.2 + 1) entry.1, List.zipIdx_map_fst]

theorem readCategories_channelNodes (fixture : Fixture) :
    (elements categoryElement.name (within 0 (channelNodes fixture))).mapM
        (readTerm categoryElement) =
      some fixture.categories := by
  have helements :
      elements categoryElement.name (within 0 (channelNodes fixture)) =
        fixture.categories.map fun term =>
          within 2 (termNodes categoryElement term) := by
    simp only [channelNodes, elements_within, elements_append,
      elements_blocks]
    rw [elements_blocks_of_ne (by decide), elements_blocks_of_ne (by decide),
      elements_blocks_of_ne (by decide)]
    simp [headerNodes, categoryElement]
  rw [helements]
  exact mapM_map_eq_some fun term _ =>
    readTerm_termNodes categoryElement term (by decide)

theorem readTags_channelNodes (fixture : Fixture) :
    (elements tagElement.name (within 0 (channelNodes fixture))).mapM
        (readTerm tagElement) =
      some fixture.tags := by
  have helements :
      elements tagElement.name (within 0 (channelNodes fixture)) =
        fixture.tags.map fun term =>
          within 2 (termNodes tagElement term) := by
    simp only [channelNodes, elements_within, elements_append,
      elements_blocks]
    rw [elements_blocks_of_ne (by decide), elements_blocks_of_ne (by decide),
      elements_blocks_of_ne (by decide)]
    simp [headerNodes, tagElement]
  rw [helements]
  exact mapM_map_eq_some fun term _ =>
    readTerm_termNodes tagElement term (by decide)

theorem readItems_channelNodes (fixture : Fixture) :
    (elements "item" (within 0 (channelNodes fixture))).mapM readItem =
      some (fixture.posts.map Post.visible) := by
  have helements : elements "item" (within 0 (channelNodes fixture)) =
      fixture.posts.map fun post => within 2 (itemNodes post) := by
    simp only [channelNodes, elements_within, elements_append,
      elements_blocks]
    rw [elements_blocks_of_ne (by decide), elements_blocks_of_ne (by decide),
      elements_blocks_of_ne (by decide)]
    simp [headerNodes]
  rw [helements]
  exact mapM_map_eq_some_map fun post _ => readItem_itemNodes post

theorem readWxr_toWxr (fixture : Fixture) :
    readWxr (toWxr fixture) = some fixture.visible := by
  have hrss : elements "rss" (wxrNodes fixture) =
      [['\n'].map .char ++
        blockNodes 0 "channel" (channelNodes fixture)] := by
    have hline := @elements_line rssXmlTag "rss" rfl "rss" 0
      (['\n'].map .char ++ blockNodes 0 "channel" (channelNodes fixture))
    rw [wxrNodes, elements_append, elements_map_char, hline]
    rfl
  have hchannel : elements "channel" (['\n'].map .char ++
      blockNodes 0 "channel" (channelNodes fixture)) =
        [within 0 (channelNodes fixture)] := by
    rw [elements_append, elements_map_char, elements_blockNodes]
    rfl
  rw [readWxr, (denotes_toWxr fixture).read_eq]
  simp only [Option.bind_eq_bind, Option.bind_some, hrss, hchannel,
    List.head?_cons, readChannel, readSize_channelNodes,
    readAuthors_channelNodes, readCategories_channelNodes,
    readTags_channelNodes, readItems_channelNodes]
  rfl

end Darcbench.WordpressFixture
