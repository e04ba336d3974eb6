import VideoWall.Proofs.Choices
import VideoWall.Proofs.Elements
import VideoWall.Proofs.Polled

/-!
# The selection box

The page offers the streams of the catalog in a selection box, in which those that are selected are
marked.  To apply the selection is to select the values of the marked options.  A catalog may have a
stream more than once and in any spelling, and a stream may be selected in yet another one; so what
is marked are all options of a selected stream, and there is one, because no stream is selected that
the catalog does not have.

A browser finds the options in the text of the page.  It reads one tag after the other, and takes
the options from the tag that opens the selection box up to the one that closes it.

    an option is read with its value and its mark                          (passes_option)
    the options on the page are the streams of the catalog                  (choices_page)
    to apply what is marked changes nothing            (selection_of_marked_choices)
-/

namespace VideoWall

namespace Page

/-! ## A reader of options -/

/-- What is read of a tag: its words, of which the first is its name, its id and its value. -/
structure Tag where
  words : List (List Char) := []
  id : List Char := []
  value : List Char := []

/-- An option of a selection box. -/
structure Choice where
  value : String
  marked : Bool
  deriving DecidableEq, Repr

namespace Tag

/-- The tag after a word, of which the last character comes first. -/
def withWord (t : Tag) (word : List Char) : Tag :=
  if word.isEmpty then t else { t with words := t.words ++ [word.reverse] }

/-- The tag after the value of an attribute; it and the word before it have their last character
first. -/
def withValue (t : Tag) (word read : List Char) : Tag :=
  if word = "id=".toList.reverse then { t with id := unescapeChars read.reverse }
  else if word = "value=".toList.reverse then { t with value := unescapeChars read.reverse }
  else t

def isNamed (t : Tag) (name : String) : Bool := t.words.head? == some name.toList

/-- Whether the tag opens the selection box of the page. -/
def opensBox (t : Tag) : Bool := t.isNamed "select" && t.id == "selection".toList

/-- The option that the tag begins. -/
def choice? (t : Tag) : Option Choice :=
  if t.isNamed "option" then
    some ⟨String.ofList t.value, t.words.contains "selected".toList⟩
  else none

end Tag

/-- Where a reader is with respect to the selection box. -/
inductive Stage where
  | before
  | inside
  | past
  deriving DecidableEq

/-- The stage after a tag. -/
def Stage.pass : Stage → Tag → Stage
  | before, t => if t.opensBox then inside else before
  | inside, t => if t.isNamed "/select" then past else inside
  | past, _ => past

/-- A reader of the options: where it is and what it has read of the tag it is in. -/
structure Reader where
  place : Place
  tag : Tag
  stage : Stage

namespace Reader

/-- Between the tags. -/
def between (stage : Stage) : Reader := ⟨.content, {}, stage⟩

def next : Reader → Char → Reader
  | ⟨.content, _, stage⟩, c => ⟨Place.content.next c, {}, stage⟩
  | ⟨.tag word, tag, stage⟩, c =>
    if c = '>' then between (stage.pass (tag.withWord word))
    else if Text.isWhite c then ⟨(Place.tag word).next c, tag.withWord word, stage⟩
    else ⟨(Place.tag word).next c, tag, stage⟩
  | ⟨.value quote word read, tag, stage⟩, c =>
    if c = quote then ⟨.tag [], tag.withValue word read, stage⟩
    else ⟨.value quote word (c :: read), tag, stage⟩

/-- The option that the next character completes. -/
def choice? : Reader → Char → Option Choice
  | ⟨.tag word, tag, .inside⟩, c => if c = '>' then (tag.withWord word).choice? else none
  | _, _ => none

def after (r : Reader) (cs : List Char) : Reader := cs.foldl next r

/-- The options that some characters complete, in order. -/
def found (r : Reader) : List Char → List Choice
  | [] => []
  | c :: cs => (r.choice? c).toList ++ (r.next c).found cs

theorem after_append (r : Reader) (cs ds : List Char) :
    r.after (cs ++ ds) = (r.after cs).after ds := List.foldl_append

theorem found_append (r : Reader) (cs ds : List Char) :
    r.found (cs ++ ds) = r.found cs ++ (r.after cs).found ds := by
  induction cs generalizing r with
  | nil => rfl
  | cons c cs ih =>
    rw [List.cons_append, found, found, ih, List.append_assoc]
    rfl

theorem choice?_of_past {r : Reader} (h : r.stage = .past) (c : Char) : r.choice? c = none := by
  unfold choice?
  split
  · cases h
  · rfl

theorem stage_next_of_past {r : Reader} (h : r.stage = .past) (c : Char) :
    (r.next c).stage = .past := by
  obtain ⟨place, tag, stage⟩ := r
  subst h
  cases place with
  | content => rfl
  | tag word =>
    rw [next]
    split
    · rfl
    · split <;> rfl
  | value quote word read =>
    rw [next]
    split <;> rfl

/-- Past the selection box there are no more options. -/
theorem found_of_past {r : Reader} (h : r.stage = .past) (cs : List Char) : r.found cs = [] := by
  induction cs generalizing r with
  | nil => rfl
  | cons c cs ih =>
    rw [found, choice?_of_past h, ih (stage_next_of_past h c)]
    rfl

theorem stage_of_next {r : Reader} {c : Char} (h : (r.next c).stage = .before) :
    r.stage = .before := by
  obtain ⟨place, tag, stage⟩ := r
  have hpass (t : Tag) (ht : stage.pass t = .before) : stage = .before := by
    cases stage with
    | before => rfl
    | inside =>
      rw [Stage.pass] at ht
      split at ht <;> cases ht
    | past => cases ht
  cases place with
  | content => exact h
  | tag word =>
    rw [next] at h
    split at h
    · exact hpass _ h
    · split at h <;> exact h
  | value quote word read =>
    rw [next] at h
    split at h <;> exact h

theorem stage_of_after {r : Reader} {cs : List Char} (h : (r.after cs).stage = .before) :
    r.stage = .before := by
  induction cs generalizing r with
  | nil => exact h
  | cons c cs ih => exact stage_of_next (ih h)

/-- Before the selection box there are no options. -/
theorem found_of_before {r : Reader} {cs : List Char} (h : (r.after cs).stage = .before) :
    r.found cs = [] := by
  induction cs generalizing r with
  | nil => rfl
  | cons c cs ih =>
    have hnext : (r.next c).stage = .before := stage_of_after h
    have hstage : r.stage = .before := stage_of_next hnext
    have hnone : r.choice? c = none := by
      unfold choice?
      split
      · cases hstage
      · rfl
    rw [found, hnone, ih h]
    rfl

variable {cs : List Char}

/-- Without a delimiter no tag begins. -/
theorem between_of_text (h : ∀ c ∈ cs, isDelimiter c = false) (stage : Stage) :
    (between stage).after cs = between stage ∧ (between stage).found cs = [] := by
  induction cs with
  | nil => exact ⟨rfl, rfl⟩
  | cons c cs ih =>
    have hc : c ≠ '<' := by
      rintro rfl
      exact Bool.noConfusion (h _ List.mem_cons_self)
    have hnext : (between stage).next c = between stage := by
      simp [next, between, Place.next, hc]
    obtain ⟨hafter, hfound⟩ := ih fun d hd => h d (List.mem_cons_of_mem c hd)
    rw [after, List.foldl_cons, found, hnext]
    exact ⟨hafter, hfound⟩

/-- Without a delimiter no value ends. -/
theorem value_of_text (h : ∀ c ∈ cs, isDelimiter c = false) (word read : List Char) (tag : Tag)
    (stage : Stage) :
    after ⟨.value '"' word read, tag, stage⟩ cs =
        ⟨.value '"' word (cs.reverse ++ read), tag, stage⟩ ∧
      found ⟨.value '"' word read, tag, stage⟩ cs = [] := by
  induction cs generalizing read with
  | nil => exact ⟨rfl, rfl⟩
  | cons c cs ih =>
    have hc : c ≠ '"' := by
      rintro rfl
      exact Bool.noConfusion (h _ List.mem_cons_self)
    have hnext : next ⟨.value '"' word read, tag, stage⟩ c =
        ⟨.value '"' word (c :: read), tag, stage⟩ := by
      simp [next, hc]
    obtain ⟨hafter, hfound⟩ := ih (fun d hd => h d (List.mem_cons_of_mem c hd)) (c :: read)
    rw [after, List.foldl_cons, found, hnext, List.reverse_cons, List.append_assoc]
    exact ⟨hafter, hfound⟩

end Reader

/-- The options of the selection box in the text of a page. -/
def choices (text : String) : List Choice := (Reader.between .before).found text.toList

/-! ## Pieces -/

/-- An escaped text is read as it was. -/
theorem unescapeChars_reverse (s : String) :
    unescapeChars ((s.toList.flatMap escapeChar).reverse ++ []).reverse = s.toList := by
  rw [List.append_nil, List.reverse_reverse, unescapeChars_flatMap_escapeChar]

/-- Whether no character of the text could begin or end something in a page. -/
def IsPlain (s : String) : Prop := ∀ c ∈ s.toList, isDelimiter c = false

theorem isPlain_of_any {s : String} {cs : List Char} (hs : s = String.ofList cs)
    (h : cs.any isDelimiter = false) : IsPlain s := by
  intro c hc
  rw [hs, String.toList_ofList] at hc
  simpa using List.any_eq_false.1 h c hc

/-- Whether a reader comes from `r` through the pieces to `r'` and finds these options. -/
structure Passes (r : Reader) (ps : List Piece) (r' : Reader) (found : List Choice) : Prop where
  after : r.after (ps.flatMap Piece.chars) = r'
  found : r.found (ps.flatMap Piece.chars) = found

namespace Passes

variable {p q r : Reader} {ps qs : List Piece} {cs ds : List Choice}

theorem nil (p : Reader) : Passes p [] p [] := ⟨rfl, rfl⟩

theorem append (h : Passes p ps q cs) (k : Passes q qs r ds) :
    Passes p (ps ++ qs) r (cs ++ ds) := by
  refine ⟨?_, ?_⟩
  · rw [List.flatMap_append, Reader.after_append, h.after, k.after]
  · rw [List.flatMap_append, Reader.found_append, h.found, h.after, k.found]

/-- A piece without an option. -/
theorem cons {x : Piece} (h : Passes p [x] q []) (k : Passes q qs r ds) :
    Passes p (x :: qs) r ds := h.append k

theorem flatMap {α : Type} {f : α → List Piece} {g : α → Choice}
    (h : ∀ a, Passes p (f a) p [g a]) (as : List α) : Passes p (as.flatMap f) p (as.map g) := by
  induction as with
  | nil => exact nil p
  | cons a as ih =>
    rw [List.flatMap_cons, List.map_cons]
    exact (h a).append ih

theorem piece {x : Piece} (hafter : p.after x.chars = q) (hfound : p.found x.chars = cs) :
    Passes p [x] q cs := by
  have hchars : [x].flatMap Piece.chars = x.chars := List.flatMap_singleton Piece.chars x
  refine ⟨?_, ?_⟩
  · rw [hchars]
    exact hafter
  · rw [hchars]
    exact hfound

/-- Fixed markup before the selection box. -/
theorem front {s : String} {chars : List Char} (q : Reader) (hs : s = String.ofList chars)
    (hafter : p.after chars = q) (hq : q.stage = .before) : Passes p [.markup s] q [] := by
  have hchars : (Piece.markup s).chars = chars := by rw [Piece.chars, hs, String.toList_ofList]
  refine piece ?_ ?_
  · rw [hchars]
    exact hafter
  · rw [hchars]
    exact Reader.found_of_before (hafter ▸ hq)

theorem markup_append {s t : String} (h : Passes p [.markup s] q [])
    (k : Passes q [.markup t] r []) : Passes p [.markup (s ++ t)] r [] := by
  have hchars : [Piece.markup (s ++ t)].flatMap Piece.chars =
      [Piece.markup s, .markup t].flatMap Piece.chars := by
    simp [Piece.chars, String.toList_append]
  have happend := h.append k
  exact ⟨by rw [hchars]; exact happend.after, by rw [hchars]; exact happend.found⟩

/-- Plain markup between the tags. -/
theorem between {s : String} (h : IsPlain s) (stage : Stage) :
    Passes (.between stage) [.markup s] (.between stage) [] := by
  obtain ⟨hafter, hfound⟩ := Reader.between_of_text h stage
  exact piece hafter hfound

/-- Plain markup in the value of an attribute. -/
theorem value {s : String} (h : IsPlain s) {word read : List Char} {tag : Tag} {stage : Stage} :
    Passes ⟨.value '"' word read, tag, stage⟩ [.markup s]
      ⟨.value '"' word (s.toList.reverse ++ read), tag, stage⟩ [] := by
  obtain ⟨hafter, hfound⟩ := Reader.value_of_text h word read tag stage
  exact piece hafter hfound

/-- Text between the tags. -/
theorem text (s : String) (stage : Stage) :
    Passes (.between stage) [.text s] (.between stage) [] := by
  obtain ⟨hafter, hfound⟩ :=
    Reader.between_of_text (fun _ hc => isDelimiter_of_mem_escape (s := s) hc) stage
  exact piece hafter hfound

/-- Text in the value of an attribute. -/
theorem quoted (s : String) {word : List Char} {tag : Tag} {stage : Stage} :
    Passes ⟨.value '"' word [], tag, stage⟩ [.text s]
      ⟨.value '"' word ((s.toList.flatMap escapeChar).reverse ++ []), tag, stage⟩ [] := by
  obtain ⟨hafter, hfound⟩ :=
    Reader.value_of_text (fun _ hc => isDelimiter_of_mem_escape (s := s) hc) word [] tag stage
  exact piece hafter hfound

theorem ident (name : String) {tag : Tag} {stage : Stage} :
    Passes ⟨.tag [], tag, stage⟩ [.ident name]
      ⟨.tag [], { tag with id := name.toList }, stage⟩ [] := by
  obtain ⟨hafter, hfound⟩ :=
    Reader.value_of_text (fun _ hc => isDelimiter_of_mem_escape (s := name) hc)
      "id=".toList.reverse [] tag stage
  have hopen : Reader.after ⟨.tag [], tag, stage⟩ "id=\"".toList =
      ⟨.value '"' "id=".toList.reverse [], tag, stage⟩ := rfl
  have hnone : Reader.found ⟨.tag [], tag, stage⟩ "id=\"".toList = [] := by
    cases stage <;> rfl
  have hclose (read : List Char) :
      Reader.after ⟨.value '"' "id=".toList.reverse read, tag, stage⟩ ['"'] =
        ⟨.tag [], { tag with id := unescapeChars read.reverse }, stage⟩ := rfl
  refine piece ?_ ?_
  · rw [Piece.chars, Reader.after_append, Reader.after_append, hopen, hafter, hclose,
      unescapeChars_reverse]
  · rw [Piece.chars, Reader.found_append, Reader.found_append, hopen, hnone, hafter, hfound]
    rfl

end Passes

/-- An option is read with its value, and with its mark just if the stream is selected. -/
theorem passes_option (selection : List StreamId) (id : StreamId) :
    Passes (.between .inside) (option selection id) (.between .inside)
      [⟨id.raw, selection.contains id⟩] := by
  let named : Tag := { words := ["option".toList] }
  let valued : Tag := { words := ["option".toList], value := id.raw.toList }
  have hopen : Passes (.between .inside) [.markup "<option value=\""]
      ⟨.value '"' "value=".toList.reverse [], named, .inside⟩ [] := .piece rfl rfl
  have hquote : Passes ⟨.value '"' "value=".toList.reverse
        ((id.raw.toList.flatMap escapeChar).reverse ++ []), named, .inside⟩ [.markup "\""]
      ⟨.tag [], valued, .inside⟩ [] := by
    refine .piece ?_ rfl
    show Reader.mk (.tag []) { named with value := unescapeChars _ } .inside = _
    rw [unescapeChars_reverse]
  have hmark : Passes ⟨.tag [], valued, .inside⟩
      [.text (if selection.contains id then " selected" else ""), .markup ">"] (.between .inside)
      [⟨String.ofList id.raw.toList, selection.contains id⟩] := by
    cases selection.contains id with
    | true => exact ⟨rfl, rfl⟩
    | false => exact ⟨rfl, rfl⟩
  rw [String.ofList_toList] at hmark
  have hshown : Passes (.between .inside) [.text id.raw, .markup "</option>"]
      (.between .inside) [] :=
    .cons (.text _ _) (.piece rfl rfl)
  exact .cons hopen (.cons (.quoted id.raw) (.cons hquote (hmark.append hshown)))

/-! ## The page -/

/-- Whether the texts of a slider are plain. -/
structure Slider.Plain (r : Slider) : Prop where
  title : IsPlain r.title
  name : IsPlain r.name
  setting : IsPlain r.setting
  lowest : IsPlain r.lowest
  highest : IsPlain r.highest
  step : IsPlain r.step

/-- A slider is passed over. -/
theorem passes_slider {r : Slider} (h : r.Plain) :
    Passes (.between .before) r.pieces (.between .before) [] := by
  let span : Tag := { words := ["span".toList] }
  let input : Tag := { words := ["input".toList] }
  let named : Tag := { input with id := r.name.toList }
  let inTag (tag : Tag) : Reader := ⟨.tag [], tag, .before⟩
  let inValue (word : String) (read : List Char) (tag : Tag) : Reader :=
    ⟨.value '"' word.toList.reverse read, tag, .before⟩
  have htitle : Passes (.between .before) [.markup ("        <label>" ++ r.title ++ ": <span ")]
      (inTag span) [] :=
    ((Passes.front (.between .before) rfl rfl rfl).markup_append (.between h.title _)).markup_append
      (.front (inTag span) rfl rfl rfl)
  have hlabel : Passes (inTag span) [.ident (r.name ++ "-value"), .markup ">", .text r.value]
      (.between .before) [] :=
    .cons (.ident _) (.cons (.front (.between .before) rfl rfl rfl) (.text _ _))
  have hinput : Passes (.between .before)
      [.markup "</span>\n            <input type=\"range\" ", .ident r.name] (inTag named) [] :=
    .cons (.front (inTag input) rfl rfl rfl) (.ident _)
  have hrange : Passes (inTag named)
      [.markup (" min=\"" ++ r.lowest ++ "\" max=\"" ++ r.highest ++ "\" step=\"" ++ r.step ++
        "\" value=\"")] (inValue "value=" [] named) [] :=
    ((((((Passes.front (inValue "min=" [] named) rfl rfl rfl).markup_append
      (.value h.lowest)).markup_append
      (.front (inValue "max=" [] named) rfl rfl rfl)).markup_append
      (.value h.highest)).markup_append
      (.front (inValue "step=" [] named) rfl rfl rfl)).markup_append
      (.value h.step)).markup_append (.front (inValue "value=" [] named) rfl rfl rfl)
  have hevents (read : List Char) :
      Passes (inValue "value=" read named)
        [.markup ("\"\n                oninput=\"document.getElementById('" ++ r.name ++
            "-value').textContent = this.value\"\n"),
          .markup ("                onchange=\"updateConfig(\x7b " ++ r.setting ++
            ": Number(this.value) \x7d)\">\n        </label>\n")] (.between .before) [] :=
    let valued : Tag := { named with value := unescapeChars read.reverse }
    .cons (((Passes.front (inValue "oninput=" _ valued) rfl rfl rfl).markup_append
        (.value h.name)).markup_append (.front (inTag valued) rfl rfl rfl))
      (((Passes.front (inValue "onchange=" _ valued) rfl rfl rfl).markup_append
        (.value h.setting)).markup_append (.front (.between .before) rfl rfl rfl))
  exact .cons htitle (hlabel.append (hinput.append (.cons hrange (.cons (.quoted _) (hevents _)))))

theorem plain_intervalSlider (c : RefreshConfig) : (intervalSlider c).Plain := by
  constructor <;> exact isPlain_of_any rfl rfl

theorem plain_timeoutSlider (c : RefreshConfig) : (timeoutSlider c).Plain := by
  constructor <;> exact isPlain_of_any rfl rfl

theorem plain_columnsSlider (c : RefreshConfig) : (columnsSlider c).Plain := by
  constructor <;> exact isPlain_of_any rfl rfl

theorem passes_checkbox (title setting : String) (htitle : IsPlain title)
    (hsetting : IsPlain setting) (on : Bool) :
    Passes (.between .before) (checkbox title setting on) (.between .before) [] := by
  let input (words : List (List Char)) : Tag := { words := "input".toList :: words }
  let inValue (words : List (List Char)) (read : List Char) : Reader :=
    ⟨.value '"' "onchange=".toList.reverse read, input words, .before⟩
  have hopen : Passes (.between .before)
      [.markup "        <label class=\"inline\"><input type=\"checkbox\" "]
      ⟨.tag [], input [], .before⟩ [] := .front _ rfl rfl rfl
  have hevent {p : Reader} {words : List (List Char)} {read : List Char}
      (h : Passes p [.markup " onchange=\"updateConfig(\x7b "] (inValue words read) []) :
      Passes p [.markup (" onchange=\"updateConfig(\x7b " ++ setting ++
        ": this.checked \x7d)\"> " ++ title ++ "</label>\n")] (.between .before) [] :=
    (((h.markup_append (.value hsetting)).markup_append
      (.front (.between .before) rfl rfl rfl)).markup_append (.between htitle _)).markup_append
      (.front (.between .before) rfl rfl rfl)
  cases on with
  | true =>
    have hmark : Passes ⟨.tag [], input [], .before⟩ [.text "checked"]
        ⟨.tag "checked".toList.reverse, input [], .before⟩ [] := ⟨rfl, rfl⟩
    exact .cons hopen (.cons hmark (hevent (.front (inValue ["checked".toList] _) rfl rfl rfl)))
  | false =>
    have hmark : Passes ⟨.tag [], input [], .before⟩ [.text ""] ⟨.tag [], input [], .before⟩ [] :=
      ⟨rfl, rfl⟩
    exact .cons hopen (.cons hmark (hevent (.front (inValue [] _) rfl rfl rfl)))

/-- The page up to its selection box. -/
def front (baseUrl : String) (c : RefreshConfig) : List Piece :=
  [.markup "<!DOCTYPE html>\n<html lang=\"en\">\n<head>\n    <meta charset=\"UTF-8\">\n",
    .markup "    <meta name=\"viewport\" content=\"width=device-width, initial-scale=1.0\">\n",
    .markup "    <title>SecureSurveillance</title>\n",
    .markup "    <link rel=\"stylesheet\" href=\"/static/style.css\">\n</head>\n<body>\n    ",
    .markup "<div class=\"sidebar\">\n        <h2>Backend</h2>\n        <label>Base URL\n",
    .markup "            <input type=\"text\" ", .ident "base-url", .markup " value=\"",
    .text baseUrl, .markup "\">\n        </label>\n",
    .markup "        <button class=\"btn\" onclick=\"connectBackend()\">Connect</button>\n"] ++
  ((intervalSlider c).pieces ++ ((timeoutSlider c).pieces ++ ((columnsSlider c).pieces ++
  (checkbox "Show metadata" "show_meta" c.showMeta ++
  (checkbox "Show stream links" "show_links" c.showLinks ++
  (checkbox "Run" "running" c.running ++
  [.markup "        <h2>Streams</h2>\n        <label>Select streams\n",
    .markup "            <select multiple ", .ident "selection", .markup ">"]))))))

theorem front_append_prefix (s : Snapshot) :
    front s.baseUrl s.config ++ (s.catalog.flatMap (option s.selection) ++
      [.markup "</select>\n        </label>\n"]) <+: page s := by
  simp only [page, sidebar, front, List.append_assoc, List.cons_append, List.nil_append,
    List.prefix_append_right_inj, List.cons_prefix_cons, true_and, List.nil_prefix]

theorem passes_front (baseUrl : String) (c : RefreshConfig) :
    Passes (.between .before) (front baseUrl c) (.between .inside) [] := by
  have hbase : Passes (.between .before)
      [.markup "<!DOCTYPE html>\n<html lang=\"en\">\n<head>\n    <meta charset=\"UTF-8\">\n",
        .markup "    <meta name=\"viewport\" content=\"width=device-width, initial-scale=1.0\">\n",
        .markup "    <title>SecureSurveillance</title>\n",
        .markup "    <link rel=\"stylesheet\" href=\"/static/style.css\">\n</head>\n<body>\n    ",
        .markup "<div class=\"sidebar\">\n        <h2>Backend</h2>\n        <label>Base URL\n",
        .markup "            <input type=\"text\" ", .ident "base-url", .markup " value=\"",
        .text baseUrl, .markup "\">\n        </label>\n",
        .markup "        <button class=\"btn\" onclick=\"connectBackend()\">Connect</button>\n"]
      (.between .before) [] :=
    .cons (.front (.between .before) rfl rfl rfl) <|
      .cons (.front (.between .before) rfl rfl rfl) <|
      .cons (.front (.between .before) rfl rfl rfl) <|
      .cons (.front (.between .before) rfl rfl rfl) <|
      .cons (.front (.between .before) rfl rfl rfl) <|
      .cons (.front ⟨.tag [], { words := ["input".toList] }, .before⟩ rfl rfl rfl) <|
      .cons (.ident _) <|
      .cons (.front ⟨.value '"' "value=".toList.reverse [], _, .before⟩ rfl rfl rfl) <|
      .cons (.quoted _) <| .cons (.front (.between .before) rfl rfl rfl) <|
      .front (.between .before) rfl rfl rfl
  have hmeta := passes_checkbox "Show metadata" "show_meta"
    (isPlain_of_any rfl rfl) (isPlain_of_any rfl rfl) c.showMeta
  have hlinks := passes_checkbox "Show stream links" "show_links"
    (isPlain_of_any rfl rfl) (isPlain_of_any rfl rfl) c.showLinks
  have hrun := passes_checkbox "Run" "running"
    (isPlain_of_any rfl rfl) (isPlain_of_any rfl rfl) c.running
  have hbox : Passes (.between .before)
      [.markup "        <h2>Streams</h2>\n        <label>Select streams\n",
        .markup "            <select multiple ", .ident "selection", .markup ">"]
      (.between .inside) [] :=
    .cons (.front (.between .before) rfl rfl rfl) <|
      .cons (.front ⟨.tag [], { words := ["select".toList, "multiple".toList] }, .before⟩
        rfl rfl rfl) <|
      .cons (.ident _) <| .piece rfl rfl
  exact hbase.append <| (passes_slider (plain_intervalSlider c)).append <|
    (passes_slider (plain_timeoutSlider c)).append <|
    (passes_slider (plain_columnsSlider c)).append <| hmeta.append <| hlinks.append <|
    hrun.append hbox

/-- The options on a page are the streams of the catalog, and those are marked that are selected. -/
theorem choices_page (s : Snapshot) :
    choices (render (page s)) = s.catalog.map fun id => ⟨id.raw, s.selection.contains id⟩ := by
  obtain ⟨rest, hpage⟩ := front_append_prefix s
  have hclose : Passes (.between .inside) [.markup "</select>\n        </label>\n"]
      (.between .past) [] := .piece rfl rfl
  have hbox := (passes_front s.baseUrl s.config).append <|
    (Passes.flatMap (passes_option s.selection) s.catalog).append hclose
  rw [choices, render, String.toList_ofList, ← hpage, List.flatMap_append, Reader.found_append,
    hbox.found, hbox.after, Reader.found_of_past rfl, List.nil_append, List.append_nil,
    List.append_nil]

end Page

/-! ## Applying the selection -/

theorem Catalog.eq_loaded_of_streams? {c : Catalog} {streams : List StreamId}
    (h : c.streams? = some streams) : c = .loaded streams := by
  cases c with
  | loaded others => exact congrArg loaded (Option.some.inj h)
  | pending => cases h
  | failed message => cases h

namespace Dashboard

variable {d : Dashboard} {streams : List StreamId}

/-- The streams of the catalog that are selected are all that are selected. -/
theorem WithinCatalog.contains_filter (h : d.WithinCatalog) (hc : d.catalog = .loaded streams)
    (id : StreamId) :
    (streams.filter d.selection.contains).contains id = d.selection.contains id := by
  rw [Bool.eq_iff_iff, List.contains_iff_exists_mem_beq]
  constructor
  · rintro ⟨a, ha, hid⟩
    rw [List.contains_congr hid]
    exact (List.mem_filter.1 ha).2
  · intro hid
    obtain ⟨chosen, hchosen, hsame⟩ := List.contains_iff_exists_mem_beq.1 hid
    obtain ⟨a, ha, hspelled⟩ := List.contains_iff_exists_mem_beq.1 (h streams hc chosen hchosen)
    have hida : (id == a) = true := BEq.trans hsame hspelled
    refine ⟨a, List.mem_filter.2 ⟨ha, ?_⟩, hida⟩
    rw [← List.contains_congr hida]
    exact hid

/-- Streams of the catalog can be selected. -/
theorem select_of_subset (hc : d.catalog = .loaded streams) {ids : List StreamId}
    (h : ids ⊆ streams) :
    d.select (ids.map (·.raw)) =
      .ok { d with selection := StreamId.distinct ids, layoutVersion := d.layoutVersion + 1 } := by
  have hparse : (ids.map (·.raw)).map StreamId.parse = ids := by
    rw [List.map_map]
    exact List.map_id ids
  have hknown : firstUnknown streams (ids.map (·.raw)) = none := by
    refine List.find?_eq_none.2 fun raw hraw => ?_
    obtain ⟨id, hid, rfl⟩ := List.mem_map.1 hraw
    have hin : streams.contains (StreamId.parse id.raw) = true :=
      List.contains_iff_exists_mem_beq.2 ⟨id, h hid, BEq.rfl⟩
    simpa using hin
  simp only [select, hc, hknown, hparse]

end Dashboard

namespace Turn

/-- The streams of the options that are marked are the streams of the catalog that are selected. -/
theorem marked_choices {s : Session} {streams : List StreamId}
    (hc : s.dashboard.catalog = .loaded streams) (now : Instant) :
    ((Page.choices (Page.render (Page.page (s.snapshot now)))).filter (·.marked)).map (·.value) =
      (streams.filter s.dashboard.selection.contains).map (·.raw) := by
  have hcatalog : (s.snapshot now).catalog = streams := by
    show s.dashboard.catalog.streams?.getD [] = streams
    rw [hc]
    rfl
  rw [Page.choices_page, hcatalog, List.filter_map, List.map_map]
  rfl

/-- Whatever turns were taken, a stream of a loaded catalog is selected just if an option on the
page that names it is marked, in whatever spelling; and to select the values of the marked options
succeeds and leaves the same streams selected. -/
theorem selection_of_marked_choices (config : AppConfig) (start : Int) (ts : List Turn)
    (now : Instant) (streams : List StreamId)
    (hc : (history config start ts).dashboard.catalog = .loaded streams) :
    let s := history config start ts
    let marked := (Page.choices (Page.render (Page.page (s.snapshot now)))).filter (·.marked)
    (∀ id, s.dashboard.selection.contains id = true ↔
        ∃ c ∈ marked, (id == StreamId.parse c.value) = true) ∧
      ∃ t, s.select (marked.map (·.value)) = .ok t ∧
        ∀ id, t.dashboard.selection.contains id = s.dashboard.selection.contains id := by
  intro s marked
  let chosen := streams.filter s.dashboard.selection.contains
  have hmarked : marked.map (·.value) = chosen.map (·.raw) := marked_choices hc now
  have hchosen (id : StreamId) : chosen.contains id = s.dashboard.selection.contains id :=
    (withinCatalog_history config start ts).contains_filter hc id
  constructor
  · intro id
    have hparse : marked.map (fun c => StreamId.parse c.value) = chosen := by
      have hboth := congrArg (List.map StreamId.parse) hmarked
      rw [List.map_map, List.map_map] at hboth
      exact hboth.trans (List.map_id chosen)
    rw [← hchosen, ← hparse, List.contains_iff_exists_mem_beq]
    simp only [List.mem_map, exists_exists_and_eq_and]
  · have hwithin : chosen ⊆ streams := fun _ hid => (List.mem_filter.1 hid).1
    have hselect := Dashboard.select_of_subset hc hwithin
    refine ⟨s.become { s.dashboard with
        selection := StreamId.distinct chosen
        layoutVersion := s.dashboard.layoutVersion + 1 } false, ?_, fun id => ?_⟩
    · rw [hmarked, Session.select, hselect]
    · exact (StreamId.contains_distinct chosen id).trans (hchosen id)

/-- A catalog has one stream twice, in two spellings, and another is selected in a spelling that the
catalog does not have. -/
theorem selection_after_mixed_spellings :
    let url := "http://localhost:8080/streams"
    let body := "[\"cam1\",\"b\",\"cam1/main\",\"c\"]".toUTF8.toList
    let config : AppConfig := {}
    let ts := [serve url { body }, send false, answer 0, select ["b/main", "cam1/main"]]
    let s := history config 0 ts
    let marked := (Page.choices (Page.render (Page.page (s.snapshot s.now)))).filter (·.marked)
    ∃ streams, s.dashboard.catalog = .loaded streams ∧
      streams.map (·.raw) = ["cam1", "b", "cam1/main", "c"] ∧
      s.dashboard.selection.map (·.raw) = ["b/main", "cam1/main"] ∧
      marked.map (·.value) = ["cam1", "b", "cam1/main"] ∧
      (∀ id, s.dashboard.selection.contains id = true ↔
        ∃ c ∈ marked, (id == StreamId.parse c.value) = true) ∧
      ∃ t, s.select (marked.map (·.value)) = .ok t ∧
        ∀ id, t.dashboard.selection.contains id = s.dashboard.selection.contains id := by
  intro url body config ts s marked
  have hfound : s.dashboard.catalog.streams?.map (fun streams => (streams.map (·.raw),
      (streams.filter s.dashboard.selection.contains).map (·.raw))) =
        some (["cam1", "b", "cam1/main", "c"], ["cam1", "b", "cam1/main"]) := by
    decide +kernel
  have hselected : s.dashboard.selection.map (·.raw) = ["b/main", "cam1/main"] := by
    decide +kernel
  obtain ⟨streams, hstreams, hpair⟩ := Option.map_eq_some_iff.1 hfound
  obtain ⟨hraws, hchosen⟩ := Prod.mk.inj hpair
  have hc : s.dashboard.catalog = .loaded streams := Catalog.eq_loaded_of_streams? hstreams
  have hmarked : marked.map (·.value) = ["cam1", "b", "cam1/main"] :=
    (marked_choices hc s.now).trans hchosen
  refine ⟨streams, hc, hraws, hselected, hmarked, ?_⟩
  dsimp only [marked, s]
  exact selection_of_marked_choices config 0 ts s.now streams hc

end Turn

end VideoWall
