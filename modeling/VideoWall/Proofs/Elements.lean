import VideoWall.Proofs.Idents
import VideoWall.Proofs.Outlines
import VideoWall.Text

/-!
# The elements in the text of a page

A browser does not see pieces but a text.  It reads tags and in them attributes with quoted values,
and knows an element by the value of its attribute `id`, with the entities in it replaced.  Text
from elsewhere cannot make it leave the place where it is, so that it finds the ids of the pieces
and no others.

    an escaped name reads as it was                               (unescapeChars_flatMap_escapeChar)
    escaped text leaves a reader between the tags, or in a value         (Reads.text, Reads.quoted)
    the ids in the text of a grid are those of its tiles                        (elementIds_grid)
-/

namespace VideoWall.Page

/-! ## A reader -/

/-- Where a reader of a page is. -/
inductive Place where
  /-- Between the tags. -/
  | content
  /-- In a tag, after a word of which the last character comes first. -/
  | tag (word : List Char)
  /-- In the value of an attribute: the quote that ends it, the word before it, and what is read of
  it, the last character first. -/
  | value (quote : Char) (word read : List Char)

namespace Place

def next : Place → Char → Place
  | content, c => if c = '<' then tag [] else content
  | tag word, c =>
    if c = '>' then content
    else if c = '"' ∨ c = '\'' then value c word []
    else if Text.isWhite c then tag []
    else tag (c :: word)
  | value quote word read, c => if c = quote then tag [] else value quote word (c :: read)

/-- The id that the next character completes. -/
def ident? : Place → Char → Option String
  | value quote word read, c =>
    if c = quote ∧ word = "id=".toList.reverse then
      some (String.ofList (unescapeChars read.reverse))
    else none
  | _, _ => none

/-- The place after some characters. -/
def after (p : Place) (cs : List Char) : Place := cs.foldl next p

/-- The ids that some characters complete, in order. -/
def found (p : Place) : List Char → List String
  | [] => []
  | c :: cs => (p.ident? c).toList ++ (p.next c).found cs

theorem after_append (p : Place) (cs ds : List Char) :
    p.after (cs ++ ds) = (p.after cs).after ds := List.foldl_append

theorem found_append (p : Place) (cs ds : List Char) :
    p.found (cs ++ ds) = p.found cs ++ (p.after cs).found ds := by
  induction cs generalizing p with
  | nil => rfl
  | cons c cs ih =>
    rw [List.cons_append, found, found, ih, List.append_assoc]
    rfl

end Place

/-- The ids of the elements in a text. -/
def elementIds (text : String) : List String := Place.content.found text.toList

/-! ## Escaped text -/

theorem unescapeChars_cons {c : Char} (h : c ≠ '&') (cs : List Char) :
    unescapeChars (c :: cs) = c :: unescapeChars cs := by
  rw [unescapeChars] <;> rintro _ rfl <;> exact absurd rfl h

theorem unescapeChars_escapeChar (c : Char) (cs : List Char) :
    unescapeChars (escapeChar c ++ cs) = c :: unescapeChars cs := by
  unfold escapeChar
  split
  · next h => rw [h]; rfl
  next hamp =>
    split
    · next h => rw [h]; rfl
    split
    · next h => rw [h]; rfl
    split
    · next h => rw [h]; rfl
    split
    · next h => rw [h]; rfl
    exact unescapeChars_cons hamp cs

/-- An escaped text reads as it was. -/
theorem unescapeChars_flatMap_escapeChar (cs : List Char) :
    unescapeChars (cs.flatMap escapeChar) = cs := by
  induction cs with
  | nil => rfl
  | cons c cs ih => rw [List.flatMap_cons, unescapeChars_escapeChar, ih]

theorem isDelimiter_of_mem_escape {s : String} {c : Char}
    (h : c ∈ s.toList.flatMap escapeChar) : isDelimiter c = false := by
  have hnone := List.filter_eq_nil_iff.1 (filter_escape s.toList) c h
  rwa [Bool.not_eq_true] at hnone

namespace Place

variable {cs : List Char}

/-- Without a delimiter no tag begins. -/
theorem content_of_text (h : ∀ c ∈ cs, isDelimiter c = false) :
    content.after cs = content ∧ content.found cs = [] := by
  induction cs with
  | nil => exact ⟨rfl, rfl⟩
  | cons c cs ih =>
    have hc : c ≠ '<' := by
      rintro rfl
      exact Bool.noConfusion (h _ List.mem_cons_self)
    have hnext : content.next c = content := if_neg hc
    obtain ⟨hafter, hfound⟩ := ih fun d hd => h d (List.mem_cons_of_mem c hd)
    rw [after, List.foldl_cons, found, hnext]
    exact ⟨hafter, hfound⟩

/-- Without a delimiter no value ends. -/
theorem value_of_text (h : ∀ c ∈ cs, isDelimiter c = false) (word read : List Char) :
    (value '"' word read).after cs = value '"' word (cs.reverse ++ read) ∧
      (value '"' word read).found cs = [] := by
  induction cs generalizing read with
  | nil => exact ⟨rfl, rfl⟩
  | cons c cs ih =>
    have hc : c ≠ '"' := by
      rintro rfl
      exact Bool.noConfusion (h _ List.mem_cons_self)
    have hnext : (value '"' word read).next c = value '"' word (c :: read) := if_neg hc
    have hnone : (value '"' word read).ident? c = none := if_neg fun hend => hc hend.1
    obtain ⟨hafter, hfound⟩ := ih (fun d hd => h d (List.mem_cons_of_mem c hd)) (c :: read)
    rw [after, List.foldl_cons, found, hnext, hnone, List.reverse_cons, List.append_assoc]
    exact ⟨hafter, hfound⟩

end Place

/-! ## Pieces -/

/-- Whether a reader comes from `p` through the pieces to `q` and finds the ids `names`. -/
structure Reads (p : Place) (ps : List Piece) (q : Place) (names : List String) : Prop where
  after : p.after (ps.flatMap Piece.chars) = q
  found : p.found (ps.flatMap Piece.chars) = names

namespace Reads

variable {p q r : Place} {ps qs : List Piece} {names others : List String}

theorem nil (p : Place) : Reads p [] p [] := ⟨rfl, rfl⟩

theorem append (h : Reads p ps q names) (k : Reads q qs r others) :
    Reads p (ps ++ qs) r (names ++ others) := by
  refine ⟨?_, ?_⟩
  · rw [List.flatMap_append, Place.after_append, h.after, k.after]
  · rw [List.flatMap_append, Place.found_append, h.found, h.after, k.found]

theorem cons {piece : Piece} (h : Reads p [piece] q names) (k : Reads q qs r others) :
    Reads p (piece :: qs) r (names ++ others) := h.append k

theorem flatMap {α : Type} {f : α → List Piece} {g : α → List String}
    (h : ∀ a, Reads .content (f a) .content (g a)) (as : List α) :
    Reads .content (as.flatMap f) .content (as.flatMap g) := by
  induction as with
  | nil => exact nil .content
  | cons a as ih =>
    rw [List.flatMap_cons, List.flatMap_cons]
    exact (h a).append ih

theorem piece {x : Piece} (hafter : p.after x.chars = q) (hfound : p.found x.chars = names) :
    Reads p [x] q names := by
  have hchars : [x].flatMap Piece.chars = x.chars := List.flatMap_singleton Piece.chars x
  refine ⟨?_, ?_⟩
  · rw [hchars]
    exact hafter
  · rw [hchars]
    exact hfound

/-- Fixed markup that completes no id. -/
theorem markup {s : String} (q : Place) (hafter : p.after s.toList = q)
    (hfound : p.found s.toList = []) : Reads p [.markup s] q [] := piece hafter hfound

/-- Text between the tags. -/
theorem text (s : String) : Reads .content [.text s] .content [] := by
  obtain ⟨hafter, hfound⟩ :=
    Place.content_of_text fun _ hc => isDelimiter_of_mem_escape (s := s) hc
  exact piece hafter hfound

/-- Text in the value of an attribute. -/
theorem quoted (s : String) (word read : List Char) :
    Reads (.value '"' word read) [.text s]
      (.value '"' word ((s.toList.flatMap escapeChar).reverse ++ read)) [] := by
  obtain ⟨hafter, hfound⟩ :=
    Place.value_of_text (fun _ hc => isDelimiter_of_mem_escape (s := s) hc) word read
  exact piece hafter hfound

theorem ident (name : String) : Reads (.tag []) [.ident name] (.tag []) [name] := by
  obtain ⟨hafter, hfound⟩ :=
    Place.value_of_text (fun _ hc => isDelimiter_of_mem_escape (s := name) hc)
      "id=".toList.reverse []
  have hopen : (Place.tag []).after "id=\"".toList = .value '"' "id=".toList.reverse [] := rfl
  have hnone : (Place.tag []).found "id=\"".toList = [] := rfl
  have hread : unescapeChars ((name.toList.flatMap escapeChar).reverse ++ []).reverse =
      name.toList := by
    rw [List.append_nil, List.reverse_reverse, unescapeChars_flatMap_escapeChar]
  refine piece ?_ ?_
  · rw [Piece.chars, Place.after_append, Place.after_append, hopen, hafter]
    rfl
  · rw [Piece.chars, Place.found_append, Place.found_append, hopen, hnone, hafter, hfound]
    show [String.ofList (unescapeChars _)] = [name]
    rw [hread, String.ofList_toList]

end Reads

/-! ## The grid -/

theorem reads_links (e : Endpoints) : Reads .content (links e) .content [] :=
  .cons (.markup .content rfl rfl) <| .cons (.text _) <| .cons (.markup .content rfl rfl) <|
    .cons (.text _) <| .markup .content rfl rfl

theorem reads_panel (slot : Nat) (p : Panel) :
    Reads .content (panel slot p) .content
      ["meta-body-" ++ toString slot, "meta-caption-" ++ toString slot] :=
  .cons (.markup (.tag []) rfl rfl) <| .cons (.ident _) <| .cons (.markup .content rfl rfl) <|
    .cons (.text _) <|
    .cons (.markup (.value '"' "class=".toList.reverse "caption".toList.reverse) rfl rfl) <|
    .cons (.quoted _ _ _) <| .cons (.markup (.tag []) rfl rfl) <| .cons (.ident _) <|
    .cons (.markup .content rfl rfl) <| .cons (.text _) <| .markup .content rfl rfl

theorem reads_tile (showLinks : Bool) (t : Tile) :
    Reads .content (tile showLinks t) .content (tileIdents t) := by
  have hhead : Reads .content [.markup "<div class=\"tile\" ",
      .ident ("tile-" ++ toString t.slot), .markup ">\n            <h3>", .text t.stream.raw,
      .markup "</h3>\n            "] .content ["tile-" ++ toString t.slot] :=
    .cons (.markup (.tag []) rfl rfl) <| .cons (.ident _) <| .cons (.markup .content rfl rfl) <|
      .cons (.text _) <| .markup .content rfl rfl
  have hlinks : Reads .content (if showLinks then links t.endpoints else []) .content [] := by
    cases showLinks with
    | true => exact reads_links t.endpoints
    | false => exact .nil .content
  have hpicture : Reads .content [.markup "\n            <img class=\"video\" src=\"",
      .text t.endpoints.videoUrl, .markup "\" alt=\"", .text t.stream.raw,
      .markup "\">\n            "] .content [] :=
    .cons (.markup (.value '"' "src=".toList.reverse []) rfl rfl) <| .cons (.quoted _ _ _) <|
      .cons (.markup (.value '"' "alt=".toList.reverse []) rfl rfl) <| .cons (.quoted _ _ _) <|
      .markup .content rfl rfl
  have hend : Reads .content [.markup "\n        </div>"] .content [] := .markup .content rfl rfl
  have hfirst := (hhead.append hlinks).append hpicture
  unfold tile tileIdents
  cases t.panel with
  | none => exact (hfirst.append (.nil .content)).append hend
  | some p => exact (hfirst.append (reads_panel t.slot p)).append hend

theorem reads_row (g : Grid) (tiles : List Tile) :
    Reads .content (row g tiles) .content (tiles.flatMap tileIdents) := by
  have hhead : Reads .content
      [.markup "<div class=\"grid-row\" style=\"grid-template-columns: repeat(", .nat g.columns,
        .markup ", 1fr);\">"] .content [] :=
    .cons (.markup (.value '"' "style=".toList.reverse
        "grid-template-columns: repeat(".toList.reverse) rfl rfl) <|
      .cons (.quoted _ _ _) <| .markup .content rfl rfl
  have hend : Reads .content [.markup "</div>"] .content [] := .markup .content rfl rfl
  have hrow := (hhead.append (.flatMap (reads_tile g.showLinks) tiles)).append hend
  rwa [List.nil_append, List.append_nil] at hrow

/-- The ids in the text of a grid are those of its tiles, and no text on it adds one. -/
theorem elementIds_grid (g : Grid) :
    elementIds (render (grid g)) = g.tiles.flatMap tileIdents := by
  have hgrid : Reads .content (grid g) .content
      (g.rows.flatMap fun tiles => tiles.flatMap tileIdents) := .flatMap (reads_row g) g.rows
  rw [elementIds, render, String.toList_ofList, hgrid.found, Grid.tiles, ← List.flatMap_id,
    List.flatMap_assoc]
  rfl

end VideoWall.Page
