import VideoWall.Proofs.Prints
import VideoWall.Proofs.Selections

/-!
# Catalogs that pass through

A catalog comes as a list of strings from the backend and goes as a list of strings to whoever asks
for it.  In between it is kept as ids, which have their texts as they came: order and repeats are
kept, and two spellings of one stream stay two spellings.  Whether a text is read as a list of
strings or as a value that happens to be one makes no difference.

    a list of strings and the value that is such a list are read from the same texts
                                                                        (readAll_list_text_iff)
    what is printed for ids is read as the ids                            (decodeStreams_idsText)
    a catalog that is found is shown as it was found                      (streams_of_found_catalog)
-/

namespace VideoWall

namespace Json

/-! ## Lists of values and of strings -/

section

variable {α β : Type} {f : α → β} {item : Nat → Bytes → Read α}
  {item' : Nat → Bytes → Read β}

theorem exists_of_moreItems {i fuel : Nat} {read as : List α} {bs rest : Bytes}
    (h : moreItems item fuel i read bs = .ok (as, rest)) : ∃ more, as = read.reverse ++ more := by
  induction fuel generalizing i read bs with
  | zero => cases h
  | succ fuel ih =>
    rw [moreItems] at h
    split at h
    · cases h
    · cases h
      exact ⟨[], (List.append_nil _).symm⟩
    · split at h
      · cases h
      · cases h
      · split at h
        · cases h
        · obtain ⟨more, rfl⟩ := ih h
          exact ⟨_ :: more, by rw [List.reverse_cons, List.append_assoc]; rfl⟩
    · cases h

/-- To read an item and then further ones is the same in both ways if it is for the further ones. -/
theorem step_map
    (hitem : ∀ i bs a rest, item' i bs = .ok (f a, rest) ↔ item i bs = .ok (a, rest))
    (i : Nat) (fuel : Bytes → Nat) (read : List α) {as : List α} {bs rest : Bytes}
    (hmore : ∀ a tail,
      moreItems item' (fuel tail) (i + 1) (f a :: read.map f) tail = .ok (as.map f, rest) ↔
        moreItems item (fuel tail) (i + 1) (a :: read) tail = .ok (as, rest)) :
    (match item' i bs with
      | .error fault => .error fault
      | .ok (b, tail) => moreItems item' (fuel tail) (i + 1) (b :: read.map f) tail :
        Read (List β)) = .ok (as.map f, rest) ↔
      (match item i bs with
        | .error fault => .error fault
        | .ok (a, tail) => moreItems item (fuel tail) (i + 1) (a :: read) tail :
          Read (List α)) = .ok (as, rest) := by
  cases hread : item i bs with
  | ok r =>
    rw [(hitem i bs r.1 r.2).2 hread]
    exact hmore r.1 r.2
  | error fault =>
    refine ⟨fun h => ?_, fun h => nomatch h⟩
    cases hother : item' i bs with
    | error fault =>
      rw [hother] at h
      cases h
    | ok r =>
      rw [hother] at h
      obtain ⟨more, hmap⟩ := exists_of_moreItems h
      have hmem : r.1 ∈ as.map f := by
        rw [hmap]
        simp
      obtain ⟨a, -, ha⟩ := List.mem_map.1 hmem
      rw [(hitem i bs a r.2).1 (hother.trans (by rw [ha]))] at hread
      cases hread

theorem moreItems_map (hf : ∀ a b, f a = f b → a = b)
    (hitem : ∀ i bs a rest, item' i bs = .ok (f a, rest) ↔ item i bs = .ok (a, rest))
    (fuel i : Nat) (read : List α) {as : List α} {bs rest : Bytes} :
    moreItems item' fuel i (read.map f) bs = .ok (as.map f, rest) ↔
      moreItems item fuel i read bs = .ok (as, rest) := by
  induction fuel generalizing i read bs with
  | zero => simp [moreItems, atEnd]
  | succ fuel ih =>
    simp only [moreItems]
    split
    · simp [atNext]
    · simp only [Except.ok.injEq, Prod.mk.injEq, ← List.map_reverse]
      rw [List.map_inj_right hf]
    · split
      · simp [atNext]
      · simp [atNext]
      · exact step_map hitem i (fun _ => fuel) read fun a tail => ih (i + 1) (a :: read)
    · simp [atNext]

theorem listItems_map (hf : ∀ a b, f a = f b → a = b)
    (hitem : ∀ i bs a rest, item' i bs = .ok (f a, rest) ↔ item i bs = .ok (a, rest))
    {as : List α} {bs rest : Bytes} :
    listItems item' bs = .ok (as.map f, rest) ↔ listItems item bs = .ok (as, rest) := by
  simp only [listItems]
  split
  · simp [atNext]
  · simp
  · exact step_map hitem 0 (fun tail => tail.length + 1) [] fun a tail =>
      moreItems_map hf hitem _ 1 [a]

end

/-! ## Strings among values -/

theorem exists_of_map {α β : Type} {f : α → β} {x : Except Fault α} {b : β}
    (h : x.map f = .ok b) : ∃ a, x = .ok a ∧ f a = b := by
  cases x with
  | error fault => cases h
  | ok a => exact ⟨a, rfl, Except.ok.inj h⟩

theorem eq_of_text {bs rest : Bytes} {s : String} (h : Decoder.text bs = .ok (s, rest)) :
    ∃ tail, bs = 0x22 :: tail ∧ string tail = .ok (s, rest) := by
  unfold Decoder.text at h
  split at h
  · exact ⟨_, rfl, h⟩
  · exact absurd h (mismatch_ne_ok _ _ _)

theorem eq_of_list {α : Type} {item : Decoder α} {bs rest : Bytes} {as : List α}
    (h : Decoder.list item bs = .ok (as, rest)) :
    ∃ tail, bs = 0x5b :: tail ∧
      listItems (fun i bs => within (.index i) (item bs)) tail = .ok (as, rest) := by
  unfold Decoder.list at h
  split at h
  · exact ⟨_, rfl, h⟩
  · exact absurd h (mismatch_ne_ok _ _ _)

/-- Whether a value is neither a string nor a list. -/
def IsOther : Json → Prop
  | .str _ | .arr _ => False
  | _ => True

/-- All that a value can be: a string, a list, or something else, as its first byte tells. -/
theorem value_cases {depth : Nat} {b : UInt8} {bs rest : Bytes} {j : Json}
    (h : value depth (b :: bs) = .ok (j, rest)) :
    (∃ s, b = 0x22 ∧ string bs = .ok (s, rest) ∧ j = .str s) ∨
      (∃ d items, b = 0x5b ∧ depth = d + 1 ∧
        listItems (fun _ bs => value d bs) bs = .ok (items, rest) ∧ j = .arr items) ∨
      IsOther j := by
  have hother {α : Type} {f : α → Json × Bytes} {x : Except Fault α}
      (hx : x.map f = .ok (j, rest)) (hf : ∀ a, IsOther (f a).1) : IsOther j := by
    obtain ⟨a, -, ha⟩ := exists_of_map hx
    have hj := hf a
    rwa [ha] at hj
  unfold value at h
  split at h
  · exact .inr (.inr (hother h fun _ => trivial))
  split at h
  · exact .inr (.inr (hother h fun _ => trivial))
  split at h
  · exact .inr (.inr (hother h fun _ => trivial))
  split at h
  · next hb =>
    obtain ⟨⟨s, tail⟩, hs, heq⟩ := exists_of_map h
    cases heq
    exact .inl ⟨s, hb, hs, rfl⟩
  split at h
  · refine .inr (.inr (hother h fun a => ?_))
    obtain ⟨n, tail⟩ := a
    cases n <;> trivial
  split at h
  · next hb =>
    split at h
    · cases h
    · next d =>
      obtain ⟨⟨items, tail⟩, hs, heq⟩ := exists_of_map h
      cases heq
      exact .inr (.inl ⟨d, items, hb, rfl, hs, rfl⟩)
  split at h
  · split at h
    · cases h
    · exact .inr (.inr (hother h fun _ => trivial))
  · cases h

theorem value_quote (depth : Nat) (bs : Bytes) :
    value depth (0x22 :: bs) = (string bs).map fun (s, rest) => (.str s, rest) := by
  rw [value.eq_def]
  rfl

theorem value_bracket (depth : Nat) (bs : Bytes) :
    value (depth + 1) (0x5b :: bs) =
      (listItems (fun _ bs => value depth bs) bs).map fun (items, rest) => (.arr items, rest) := by
  rw [value.eq_def]
  rfl

theorem value_eq_str_iff {depth : Nat} {bs : Bytes} {s : String} {rest : Bytes} :
    value depth bs = .ok (.str s, rest) ↔ Decoder.text bs = .ok (s, rest) := by
  constructor
  · intro h
    cases bs with
    | nil =>
      unfold value at h
      cases h
    | cons b bs =>
      rcases value_cases h with ⟨s, rfl, hs, heq⟩ | ⟨_, _, _, _, _, heq⟩ | hother
      · cases heq
        exact hs
      · cases heq
      · exact hother.elim
  · intro h
    obtain ⟨tail, rfl, hs⟩ := eq_of_text h
    rw [value_quote, hs]
    rfl

theorem value_eq_arr_iff {depth : Nat} {bs : Bytes} {l : List String} {rest : Bytes} :
    value (depth + 1) bs = .ok (.arr (l.map .str), rest) ↔
      Decoder.list Decoder.text bs = .ok (l, rest) := by
  have hitem (i : Nat) (bs : Bytes) (s : String) (rest : Bytes) :
      value depth bs = .ok (.str s, rest) ↔
        within (.index i) (Decoder.text bs) = .ok (s, rest) := by
    rw [value_eq_str_iff]
    cases Decoder.text bs <;> simp [within]
  have hlist (tail : Bytes) :
      listItems (fun _ bs => value depth bs) tail = .ok (l.map .str, rest) ↔
        listItems (fun i bs => within (.index i) (Decoder.text bs)) tail = .ok (l, rest) :=
    listItems_map (fun _ _ => Json.str.inj) hitem
  constructor
  · intro h
    cases bs with
    | nil =>
      unfold value at h
      cases h
    | cons b bs =>
      rcases value_cases h with ⟨_, _, _, heq⟩ | ⟨d, items, rfl, hd, hitems, heq⟩ | hother
      · cases heq
      · cases heq
        cases hd
        exact (list_cons _ _).trans ((hlist bs).1 hitems)
      · exact hother.elim
  · intro h
    obtain ⟨tail, rfl, hs⟩ := eq_of_list h
    rw [value_bracket, (hlist tail).2 hs]
    rfl

theorem readAll_eq_ok_iff {α : Type} {item : Bytes → Read α} {text : Bytes} {a : α} :
    readAll item text = .ok a ↔
      ∃ rest, item (skipBlanks text) = .ok (a, rest) ∧ skipBlanks rest = [] := by
  unfold readAll
  cases item (skipBlanks text) with
  | error fault => simp
  | ok r =>
    obtain ⟨b, rest⟩ := r
    dsimp only
    split
    · next hrest => simp [hrest]
    · next hrest => simpa [atNext] using fun _ => hrest

/-- A text is read as a list of strings just if it is read as the value that is this list. -/
theorem readAll_list_text_iff {text : Bytes} {l : List String} :
    readAll (Decoder.list Decoder.text) text = .ok l ↔ read text = .ok (.arr (l.map .str)) := by
  have hiff (rest : Bytes) :
      value maxDepth (skipBlanks text) = .ok (.arr (l.map .str), rest) ↔
        Decoder.list Decoder.text (skipBlanks text) = .ok (l, rest) :=
    value_eq_arr_iff
  simp only [read, readAll_eq_ok_iff, hiff]

end Json

/-! ## Ids -/

theorem idsToJson_eq (ids : List StreamId) :
    idsToJson ids = .arr ((ids.map StreamId.raw).map .str) := by
  rw [idsToJson, List.map_map]
  rfl

theorem idsToJson_map_parse (l : List String) :
    idsToJson (l.map StreamId.parse) = .arr (l.map .str) := by
  rw [idsToJson, List.map_map]
  rfl

/-- The text of ids, in either layout. -/
def idsText (ids : List StreamId) (layout : Option Nat) : Json.Bytes :=
  (String.ofList ((idsToJson ids).chars layout)).toUTF8.toList

theorem readAll_idsText (ids : List StreamId) (layout : Option Nat) :
    Json.readAll (Json.Decoder.list Json.Decoder.text) (idsText ids layout) =
      .ok (ids.map StreamId.raw) := by
  have htext (s : String) :
      Json.Spells Json.Decoder.text (Json.utf8 ((Json.str s).chars (Json.deeper layout))) s := by
    rw [Json.chars]
    exact Json.spells_text s
  rw [idsText, Json.toList_toUTF8, String.toList_ofList, idsToJson_eq]
  simpa using Json.readAll_of_spells (Json.spells_list htext (ids.map StreamId.raw))
    Json.isGap_nil Json.isGap_nil

/-- What is printed for ids is read as these ids, each with its text. -/
theorem decodeStreams_idsText (ids : List StreamId) (layout : Option Nat) :
    decodeStreams (.ok (idsText ids layout)) = .ok ids := by
  have hparse : (ids.map StreamId.raw).map StreamId.parse = ids := by
    rw [List.map_map]
    exact List.map_id ids
  rw [decodeStreams, decodeBody, readAll_idsText, Except.map, hparse]

theorem read_idsText (ids : List StreamId) (layout : Option Nat) :
    Json.read (idsText ids layout) = .ok (idsToJson ids) := by
  rw [idsToJson_eq]
  exact Json.readAll_list_text_iff.1 (readAll_idsText ids layout)

namespace Turn

/-- Whether a turn leaves the catalog alone: it turns to no other address and applies no answer. -/
def keepsCatalog (s : Session) : Turn → Bool
  | switch text => ((switch text).dashboard? s).isNone
  | answer n => ((answer n).dashboard? s).isNone
  | _ => true

theorem catalog_next {s : Session} {t : Turn} (h : t.keepsCatalog s = true) :
    (t.next s).dashboard.catalog = s.dashboard.catalog := by
  rw [dashboard_next]
  cases t with
  | switch text =>
    simp only [keepsCatalog, Option.isNone_iff_eq_none] at h
    rw [h, Option.getD_none]
  | answer n =>
    simp only [keepsCatalog, Option.isNone_iff_eq_none] at h
    rw [h, Option.getD_none]
  | select raws =>
    cases hmade : (select raws).dashboard? s with
    | none => rfl
    | some e =>
      simp only [dashboard?] at hmade
      obtain ⟨streams, -, -, rfl⟩ := Dashboard.eq_of_select (eq_ok_of_toOption hmade)
      rfl
  | _ => rfl

theorem catalog_run {s : Session} {ts : List Turn} (h : throughout keepsCatalog s ts = true) :
    (run s ts).dashboard.catalog = s.dashboard.catalog := by
  induction ts generalizing s with
  | nil => rfl
  | cons t ts ih =>
    obtain ⟨hfirst, hlater⟩ := Bool.and_eq_true_iff.1 h
    have hrun : (run s (t :: ts)).dashboard.catalog = (t.next s).dashboard.catalog := ih hlater
    rw [hrun, catalog_next hfirst]

end Turn

/-- A request for the streams is answered with the catalog. -/
theorem Http.handle_streams {s : Session} {r : Http.Request} {streams : List StreamId}
    (hmethod : r.method = "GET") (hpath : Route.ofPath r.path = some .streams)
    (hcatalog : s.dashboard.catalog = .loaded streams) :
    handle s r = (s, .answered (Response.json 200 (idsToJson streams)).shared) := by
  have hroute : route s r = (s, .answered (Response.json 200 (idsToJson streams))) := by
    rw [route, hmethod, hpath]
    simp [show?, hcatalog, Catalog.streams?]
  rw [handle, hroute]

namespace Turn

/-- What a backend serves for its streams is the answer to a discovery. -/
theorem outcome_asked (s : Session) (body : Json.Bytes) (keep : Bool) :
    (asked (s.serve (streamsUrl s.dashboard.baseUrl) { body }) keep).reply.outcome = .ok body := by
  have hoffer (b : Backend) (url : String) (sent : Nat) (timeout : Span) :
      (((b.serve url { body }).answer url).reply sent timeout).outcome = .ok body := by
    simp [Backend.serve, Backend.answer, Answer.reply]
  exact hoffer _ _ _ _

/-- The catalog passes through unchanged.  What is printed for any ids, in either layout, is read as
these ids.  So if a backend has answered a discovery with a text that spells a list of strings, then
from the moment when the answer is applied, and until another one is or the address changes, whoever
asks for the streams is answered with a text that spells the same list. -/
theorem streams_of_found_catalog (s : Session) :
    (∀ (ids : List StreamId) (layout : Option Nat),
      decodeStreams (.ok (idsText ids layout)) = .ok ids ∧
        Json.read (idsText ids layout) = .ok (.arr (ids.map fun id => .str id.raw))) ∧
      ∀ (n : Nat) (d : Discovery) (body : Json.Bytes) (l : List String) (later : List Turn)
        (r : Http.Request), s.discoveries[n]? = some d → d.baseUrl = s.dashboard.baseUrl →
        d.reply.outcome = .ok body → Json.read body = .ok (.arr (l.map .str)) →
        let found := (answer n).next s
        throughout keepsCatalog found later = true →
        r.method = "GET" → Http.Route.ofPath r.path = some .streams →
        found.dashboard.catalog = .loaded (l.map StreamId.parse) ∧
          ∃ response, Http.handle (run found later) r = (run found later, .answered response) ∧
            response.status = 200 ∧
            Json.read response.body.toUTF8.toList = .ok (.arr (l.map .str)) ∧
            decodeStreams (.ok response.body.toUTF8.toList) = .ok (l.map StreamId.parse) := by
  refine ⟨fun ids layout => ⟨decodeStreams_idsText ids layout, read_idsText ids layout⟩, ?_⟩
  intro n d body l later r hd hbase hbody hread found hkeeps hmethod hpath
  have hok : decodeStreams d.reply.outcome = .ok (l.map StreamId.parse) := by
    rw [hbody, decodeStreams, decodeBody, Json.readAll_list_text_iff.2 hread]
    rfl
  have hcatalog : found.dashboard.catalog = .loaded (l.map StreamId.parse) :=
    congrArg Dashboard.catalog (dashboard_of_found hd hbase hok)
  have hlater : (run found later).dashboard.catalog = .loaded (l.map StreamId.parse) :=
    (catalog_run hkeeps).trans hcatalog
  have hbytes : (idsToJson (l.map StreamId.parse)).compact.toUTF8.toList =
      idsText (l.map StreamId.parse) none := rfl
  refine ⟨hcatalog, _, Http.handle_streams hmethod hpath hlater, rfl, ?_⟩
  show Json.read (idsToJson (l.map StreamId.parse)).compact.toUTF8.toList = _ ∧
    decodeStreams (.ok (idsToJson (l.map StreamId.parse)).compact.toUTF8.toList) = _
  rw [hbytes, ← idsToJson_map_parse]
  exact ⟨read_idsText _ none, decodeStreams_idsText _ none⟩

/-- Quotes, backslashes, control characters, characters that are no ASCII and two spellings of one
stream, in a text that has blanks and escapes where the answer has none. -/
theorem streams_of_escaped_catalog :
    let body := ("[ \"cam1\",\"cam1\\/main\" ,\"say \\\"hi\\\" \\\\o/\",\n\"\\n\\u0001\"," ++
      "\"\\u00e4/€/\\ud83d\\ude00\",\"\" ]").toUTF8.toList
    let l := ["cam1", "cam1/main", "say \"hi\" \\o/", "\n\x01", "ä/€/😀", ""]
    let url := "http://localhost:8080/streams"
    let s := history {} 0 [serve url { body }, send true]
    let later := [configure { columns := some 3 }, select ["cam1"], serve url { status := 500 }]
    let found := (answer 0).next s
    throughout keepsCatalog found later = true ∧
      found.dashboard.catalog = .loaded (l.map StreamId.parse) ∧
      ∃ response, Http.handle (run found later) ⟨"GET", "/api/streams", none, []⟩ =
          (run found later, .answered response) ∧
        response.status = 200 ∧
        Json.read response.body.toUTF8.toList = .ok (.arr (l.map .str)) ∧
        decodeStreams (.ok response.body.toUTF8.toList) = .ok (l.map StreamId.parse) := by
  intro body l url s later found
  have hurl : streamsUrl (normalizeBase "http://localhost:8080") = url := rfl
  have hbody : (asked (history {} 0 [serve url { body }]) true).reply.outcome = .ok body := by
    rw [← hurl]
    exact outcome_asked (history {} 0 []) body true
  have hread : (Json.readAll (Json.Decoder.list Json.Decoder.text) body).toOption = some l := by
    simp only [body, l]
    rw [Json.toList_toUTF8]
    rfl
  have hpath : Http.Route.ofPath (Http.Request.path ⟨"GET", "/api/streams", none, []⟩) =
      some .streams :=
    rfl
  exact ⟨rfl, (streams_of_found_catalog s).2 0 _ body l later _ rfl rfl hbody
    (Json.readAll_list_text_iff.1 (eq_ok_of_toOption hread)) rfl rfl hpath⟩

end Turn

end VideoWall
