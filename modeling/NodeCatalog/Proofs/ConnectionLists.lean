import NodeCatalog.Proofs.PatternSearch
import NodeCatalog.Proofs.SchemaFields
import NodeCatalog.Proofs.DocPaths
/-!
# Connection lists and groups

A node's connection lists (`inputs`, `outputs`, `credentials`, `webhooks`) and its group are looked
up in the whole source as a name, a colon and a bracketed list. The pattern takes the items up to
the *first* closing bracket, whatever brackets or quotes stand among them: nothing in it counts
nesting. So where the first list of a name closes at its first `]`, the single fields hold that
list's items, cleaned of line breaks and repeated blanks, and so does the node's schema: cleaning
twice changes nothing (`Text.clean_clean`). A group list is cut at every comma, each piece trimmed
of blanks and then of quotes, so a flat list of quoted texts without commas gives those texts, and a
trailing comma one empty text more. This is `extract_single_node_fields`
(`src/tools/extract_schemas.py`, lines 76–102).

- `Text.Spaced`, `Text.collapse_collapse`, `Text.clean_clean`: cleaned text is cleaned for
  good.
- `ListAt`, `Pattern.search_bracketList`: the first list of a name.
- `ListItem`, `flatList`, `Fields.splitList_flatList`: flat lists of quoted items.
- `Schema.lists_of_leftmost`: **the first list of a name gives the single field and the
  schema's field: its items up to the first `]`, cleaned; for the group, the quoted items.**
-/

namespace NodeCatalog

namespace Text

/-! ## Cleaning twice -/

/-- Text in which every blank is a space after a code point other than a blank; `prevBlank`
says that the code point before the text is a blank. -/
def Spaced : Bool → Text → Prop
  | _, [] => True
  | prevBlank, c :: r =>
    if c.isBlank then prevBlank = false ∧ c = .char ' ' ∧ Spaced true r else Spaced false r

theorem isBlank_space : (Point.char ' ').isBlank = true := by decide

/-- Collapsing gives spaced text. -/
theorem spaced_collapseFrom : ∀ (inRun : Bool) (s : Text), Spaced inRun (collapseFrom inRun s)
  | _, [] => trivial
  | inRun, c :: r => by
    by_cases hc : c.isBlank = true
    · cases inRun with
      | true =>
        rw [collapseFrom, if_pos hc, if_pos rfl]
        exact spaced_collapseFrom true r
      | false =>
        rw [collapseFrom, if_pos hc, if_neg Bool.false_ne_true, Spaced, if_pos isBlank_space]
        exact ⟨rfl, rfl, spaced_collapseFrom true r⟩
    · rw [collapseFrom, if_neg hc, Spaced, if_neg hc]
      exact spaced_collapseFrom false r

/-- Spaced text collapses to itself. -/
theorem collapseFrom_of_spaced : ∀ (inRun : Bool) (s : Text), Spaced inRun s →
    collapseFrom inRun s = s
  | _, [], _ => rfl
  | inRun, c :: r, h => by
    by_cases hc : c.isBlank = true
    · rw [Spaced, if_pos hc] at h
      obtain ⟨rfl, rfl, hr⟩ := h
      rw [collapseFrom, if_pos hc, if_neg Bool.false_ne_true, collapseFrom_of_spaced true r hr]
    · rw [Spaced, if_neg hc] at h
      rw [collapseFrom, if_neg hc, collapseFrom_of_spaced false r h]

theorem collapse_collapse (s : Text) : collapse (collapse s) = collapse s :=
  collapseFrom_of_spaced false _ (spaced_collapseFrom false s)

/-- A code point other than a blank at the end is kept by collapsing. -/
theorem collapseFrom_append_of_not_blank {c : Point} (hc : c.isBlank = false) :
    ∀ (inRun : Bool) (u : Text), collapseFrom inRun (u ++ [c]) = collapseFrom inRun u ++ [c]
  | inRun, [] => by simp [collapseFrom, hc]
  | inRun, x :: u => by
    rw [List.cons_append, collapseFrom, collapseFrom]
    split
    · split
      · exact collapseFrom_append_of_not_blank hc true u
      · rw [collapseFrom_append_of_not_blank hc true u, List.cons_append]
    · rw [collapseFrom_append_of_not_blank hc false u, List.cons_append]

/-- Trimming a text whose ends are kept by the class leaves its middle: the code points of the
class before and after it are dropped. -/
theorem trimBy_frame (p : Point → Bool) (lead m trail : Text) (hl : ∀ x ∈ lead, p x = true)
    (ht : ∀ x ∈ trail, p x = true) (hh : ∀ x ∈ m.head?, p x = false)
    (hz : ∀ x ∈ m.getLast?, p x = false) : trimBy p (lead ++ m ++ trail) = m := by
  rw [trimBy, List.append_assoc, List.dropWhile_append_of_pos hl]
  cases m with
  | nil => simp [List.dropWhile_eq_nil_iff.mpr ht, trimRightBy]
  | cons a m' =>
    have ha : p a = false := hh a rfl
    rw [List.cons_append, List.dropWhile_cons_of_neg (by simp [ha]), ← List.cons_append,
      trimRightBy, List.reverse_append, List.dropWhile_append_of_pos
        (fun x hx => ht x (List.mem_reverse.mp hx))]
    obtain ⟨z, hzm⟩ : ∃ z, (a :: m').getLast? = some z :=
      Option.isSome_iff_exists.mp (by simp)
    have hz' := hz z hzm
    rw [List.getLast?_eq_head?_reverse] at hzm
    obtain ⟨rs, hrs⟩ : ∃ rs, (a :: m').reverse = z :: rs := by
      cases h : (a :: m').reverse with
      | nil => simp at h
      | cons y ys =>
        rw [h] at hzm
        cases hzm
        exact ⟨ys, rfl⟩
    rw [hrs, List.dropWhile_cons_of_neg (by simp [hz']), ← hrs, List.reverse_reverse]

/-- Trimmed text starts and ends with a code point other than a blank. -/
theorem trim_ends (s : Text) :
    (∀ x ∈ (trim s).head?, x.isBlank = false) ∧ ∀ x ∈ (trim s).getLast?, x.isBlank = false := by
  refine ⟨fun x hx => ?_, FrontMatter.getLast?_trimRightBy Point.isBlank _⟩
  rw [trim, trimBy] at hx
  obtain ⟨u, hu⟩ := FrontMatter.trimRightBy_isPrefix Point.isBlank (s.dropWhile Point.isBlank)
  have hne : trimRightBy Point.isBlank (s.dropWhile Point.isBlank) ≠ [] := fun h => by
    simp [h] at hx
  have hhead : (s.dropWhile Point.isBlank).head? = some x := by
    rw [← hu, List.head?_append_of_ne_nil _ hne]
    exact hx
  have := List.head?_dropWhile_not Point.isBlank s
  rw [hhead] at this
  exact this

/-- Cleaned text starts and ends with a code point other than a blank: trimming leaves such ends,
and collapsing keeps them. -/
theorem clean_ends (s : Text) :
    (∀ x ∈ (clean s).head?, x.isBlank = false) ∧ ∀ x ∈ (clean s).getLast?, x.isBlank = false := by
  obtain ⟨hhead, hlast⟩ := trim_ends s
  rw [clean]
  cases hu : trim s with
  | nil => simp [collapse, collapseFrom]
  | cons a u =>
    rw [hu] at hhead hlast
    have ha : a.isBlank = false := hhead a rfl
    obtain ⟨z, hzl⟩ : ∃ z, (a :: u).getLast? = some z :=
      Option.isSome_iff_exists.mp (by simp)
    have hz : z.isBlank = false := hlast z hzl
    obtain ⟨v, hv⟩ : ∃ v, a :: u = v ++ [z] :=
      ⟨(a :: u).dropLast, by rw [List.dropLast_append_getLast? z hzl]⟩
    -- collapsing keeps the first and the last code point
    have hc1 : collapse (a :: u) = a :: collapseFrom false u := by
      simp [collapse, collapseFrom, ha]
    have hc2 : collapse (a :: u) = collapse v ++ [z] := by
      rw [hv, collapse, collapseFrom_append_of_not_blank hz, collapse]
    exact ⟨by rw [hc1]; simpa using ha, by rw [hc2, List.getLast?_append]; simpa using hz⟩

/-- **Cleaned text is cleaned for good**: its ends are not blanks, so trimming it again changes
nothing, and collapsing leaves no run of blanks to collapse again. -/
theorem clean_clean (s : Text) : clean (clean s) = clean s := by
  obtain ⟨hhead, hlast⟩ := clean_ends s
  have hends : trim (clean s) = clean s := by
    simpa [trim] using trimBy_frame Point.isBlank [] (clean s) [] (by simp) (by simp) hhead hlast
  rw [clean, hends, clean, collapse_collapse]

end Text

/-! ## The first list of a name -/

/-- Text that starts a list field: the name, blanks, a colon, blanks and an opening bracket. -/
def ListAt (w s : Text) : Prop :=
  ∃ ws ws' r, (∀ x ∈ ws, x.isBlank = true) ∧ (∀ x ∈ ws', x.isBlank = true) ∧
    s = w ++ ws ++ .char ':' :: (ws' ++ .char '[' :: r)

/-- A list field's text: the name, blanks, a colon, blanks, and items between brackets. -/
def listField (name : String) (ws ws' items : Text) : Text :=
  Text.ofString name ++ ws ++ .char ':' :: (ws' ++ .char '[' :: (items ++ [.char ']']))

namespace Pattern

variable {n : Nat} {g : Groups} {k : Cont}

/-- A list field of a name, with at least `least` items characters up to the first `]`. -/
def bracketList (name : String) (least : Nat) : Pattern :=
  .seq (key name) (.seq (.word (Text.ofString "["))
    (.seq (.group 1 (.many (.complement (.char ']')) least true)) (.word (Text.ofString "]"))))

theorem listed_eq (name : String) : Fields.listed name = bracketList name 0 := rfl

theorem bracketed_eq (name : String) : Fields.bracketed name = bracketList name 1 := rfl

theorem bracket_eq : Text.ofString "[" = [.char '['] := rfl

theorem close_eq : Text.ofString "]" = [.char ']'] := rfl

theorem refusesBlank_bracket (q : Pattern) : RefusesBlank (.seq (.word (Text.ofString "[")) q) :=
  refusesBlank_seq (refusesBlank_word (by decide) []) q

/-- A real code point other than `]` may stand among a list's items. -/
theorem test_item {x : Point} (hx : x.Valid) (hne : x ≠ .char ']') :
    (CharClass.complement (.char ']')).test x = true := by
  have hcode : x.code ≠ (Point.char ']').code := fun h =>
    hne (Point.eq_of_code_eq hx (Point.valid_char _) h)
  simpa [CharClass.test] using hcode

/-- A blank may stand among a list's items. -/
theorem test_blank {x : Point} (hx : x.isBlank = true) :
    (CharClass.complement (.char ']')).test x = true := by
  cases x with
  | char c =>
    refine test_item (Point.valid_char c) fun e => ?_
    rw [e] at hx
    exact absurd hx (by decide)
  | surrogate n => cases hx

/-- A list field does not match where the text does not start one. -/
theorem go_bracketList_none {name : String} {least : Nat} {s : Text}
    (hs : ¬ ListAt (Text.ofString name) s) (i : Nat) (p : Option Point) :
    go (n + 5) (bracketList name least) ⟨i, p, s⟩ g k = none := by
  by_cases hkey : KeyAt (Text.ofString name) s
  · obtain ⟨ws, r, hws, rfl⟩ := hkey
    obtain ⟨hsplit, hws', hr⟩ := blanks_split r
    generalize r.takeWhile Point.isBlank = ws' at hsplit hws'
    generalize r.dropWhile Point.isBlank = r0 at hsplit hr
    subst hsplit
    -- after the colon and the blanks, no bracket: else a list field would start here
    have hr0 : ¬ Text.ofString "[" <+: r0 := by
      rintro ⟨r', rfl⟩
      exact hs ⟨ws, ws', r', hws, hws', by simp [bracket_eq]⟩
    rw [bracketList, go_key_eq (refusesBlank_bracket _) hws hws' hr, go_seq, go_word,
      Cursor.eat_eq_none hr0, Option.bind_none]
  · exact go_key_none hkey i p

/-- Where a list field starts and its items hold no `]`, the items are the first group. -/
theorem go_bracketList_eq (name : String) {least : Nat} {ws ws' Y B : Text}
    (hws : ∀ x ∈ ws, x.isBlank = true) (hws' : ∀ x ∈ ws', x.isBlank = true)
    (hin : ∀ x ∈ Y, (CharClass.complement (.char ']')).test x = true) (hleast : least ≤ Y.length) (i : Nat) (p : Option Point) :
    ∃ stop, go (n + 9) (bracketList name least) ⟨i, p, listField name ws ws' Y ++ B⟩ g
        (fun c' g' => some (c', g')) =
      some (stop, g.set! 1 (some ⟨i + (Text.ofString name).length + ws.length + 1 + ws'.length + 1,
        i + (Text.ofString name).length + ws.length + 1 + ws'.length + 1 + Y.length,
        Y ++ .char ']' :: B⟩)) := by
  have hbr : ∀ x ∈ (Point.char '[' :: (Y ++ Point.char ']' :: B)).head?, x.isBlank = false := by
    intro x hx
    rw [List.head?_cons, Option.mem_some_iff] at hx
    subst hx
    decide
  have hout : ∀ x ∈ (Point.char ']' :: B).head?, (CharClass.complement (.char ']')).test x = false := by
    intro x hx
    rw [List.head?_cons, Option.mem_some_iff] at hx
    subst hx
    rfl
  have htext : listField name ws ws' Y ++ B =
      Text.ofString name ++ ws ++ .char ':' :: (ws' ++ (.char '[' :: (Y ++ .char ']' :: B))) := by
    simp [listField]
  rw [htext, bracketList, go_key_eq (refusesBlank_bracket _) hws hws' hbr, go_seq,
    go_word, show Point.char '[' :: (Y ++ .char ']' :: B) = [.char '['] ++ (Y ++ .char ']' :: B)
      from rfl, bracket_eq, Cursor.eat_append, Option.bind_some, go_seq, go_group,
    go_many_greedy]
  dsimp only
  rw [List.length_singleton, List.getLast?_singleton, Option.some_or]
  generalize i + (Text.ofString name).length + ws.length + 1 + ws'.length = j
  obtain ⟨inner, hlen, -, hrun⟩ := Cursor.run_append (.complement (.char ']')) Y
    (.char ']' :: B) hin hout (j + 1) (some (.char '['))
  refine ⟨⟨j + 1 + Y.length + 1, some (.char ']'), B⟩, ?_⟩
  rw [hrun, List.drop_append_of_le_length (by omega), List.reverse_append,
    List.reverse_singleton, List.singleton_append, firstOf_cons, go_word,
    show Point.char ']' :: B = [.char ']'] ++ B from rfl, close_eq, Cursor.eat_append]
  rfl

/-- **The first list of a name.** In text where no list field of the name starts before the
one whose items hold no `]`, the search finds that list, and its first group is the items. -/
theorem search_bracketList {name : String} {least : Nat} {A ws ws' Y B : Text}
    (hws : ∀ x ∈ ws, x.isBlank = true) (hws' : ∀ x ∈ ws', x.isBlank = true)
    (hY : ∀ x ∈ Y, (CharClass.complement (.char ']')).test x = true) (hleast : least ≤ Y.length)
    (hleft : ∀ u, u ≠ [] → u <:+ A → ¬ ListAt (Text.ofString name) (u ++ (listField name ws ws' Y ++ B))) :
    ∃ m, (bracketList name least).search (A ++ (listField name ws ws' Y ++ B)) = some m ∧
      m.groupD 1 = Y := by
  simp only [search]
  rw [fuelFor_eq_add _ _ (k := 9) (Nat.le_of_ble_eq_true rfl)]
  generalize (bracketList name least).fuelFor _ - 9 = m
  rw [searchFrom_append A (fun u hu hsuf j q => by
    rw [matchWith_eq, show m + 9 = (m + 4) + 5 from rfl, go_bracketList_none (hleft u hu hsuf) j q]
    rfl)]
  obtain ⟨stop, hgo⟩ := go_bracketList_eq (n := m) (B := B) name hws hws' hY hleast
    (0 + A.length) (A.getLast?.or none) (g := Array.replicate ((bracketList name least).groupCount + 1) none)
  refine ⟨_, searchFrom_of_go hgo, ?_⟩
  rw [groupD_set (by simp [bracketList, Pattern.groupCount, key, seqs, blanks, lit])]
  simp [Span.chars]

end Pattern

/-! ## Flat lists of quoted items -/

/-- An item of a flat list: blanks, a quote, the item's text, the same quote, blanks. -/
structure ListItem where
  lead : Text
  quote : Char
  text : Text
  trail : Text

namespace ListItem

/-- The code points of an item. -/
def render (it : ListItem) : Text :=
  it.lead ++ .char it.quote :: (it.text ++ .char it.quote :: it.trail)

/-- Whether a code point is a quote that list items are trimmed of. -/
def isQuote (x : Point) : Bool :=
  Text.oneOf Fields.quoteChars x

/-- An item the group reading gives back: its quote is a quote character with blanks around
it, and its text, of real code points, holds no comma and no `]` and neither starts nor ends with
a quote. -/
structure Ok (it : ListItem) : Prop where
  quote_mem : it.quote ∈ Fields.quoteChars
  lead_blank : ∀ x ∈ it.lead, x.isBlank = true
  trail_blank : ∀ x ∈ it.trail, x.isBlank = true
  valid : it.text.Valid
  comma_not_mem : .char ',' ∉ it.text
  close_not_mem : .char ']' ∉ it.text
  head_not_quote : ∀ x ∈ it.text.head?, isQuote x = false
  last_not_quote : ∀ x ∈ it.text.getLast?, isQuote x = false

end ListItem

/-- A flat list's items: the items joined by commas, and a trailing comma with blanks after it
when `trailing` is set. -/
def flatList (items : List ListItem) (trailing : Option Text) : Text :=
  [Point.char ','].intercalate (items.map ListItem.render ++ trailing.toList)

namespace ListItem

variable {it : ListItem}

theorem quote_isBlank (h : it.Ok) : (Point.char it.quote).isBlank = false := by
  rcases List.mem_cons.mp h.quote_mem with h | h
  · rw [h]
    decide
  · rw [List.mem_singleton.mp h]
    decide

theorem quote_ne_comma (h : it.Ok) : it.quote ≠ ',' := by
  rcases List.mem_cons.mp h.quote_mem with h | h <;> simp_all

theorem quote_ne_close (h : it.Ok) : it.quote ≠ ']' := by
  rcases List.mem_cons.mp h.quote_mem with h | h <;> simp_all

theorem isQuote_quote (h : it.Ok) : isQuote (.char it.quote) = true := by
  simp [isQuote, Text.oneOf, h.quote_mem]

/-- An item trimmed of blanks and then of quotes is its text. -/
theorem trimmed_render (h : it.Ok) : Text.trimBy isQuote (Text.trim it.render) = it.text := by
  have hq := quote_isBlank h
  have htrim : Text.trim it.render = [.char it.quote] ++ it.text ++ [.char it.quote] := by
    have := Text.trimBy_frame Point.isBlank it.lead
      ([.char it.quote] ++ it.text ++ [.char it.quote]) it.trail h.lead_blank h.trail_blank
      (by simpa using hq) fun x hx => by
        rw [List.getLast?_concat, Option.mem_some_iff] at hx
        exact hx ▸ hq
    simpa [render, Text.trim] using this
  rw [htrim]
  exact Text.trimBy_frame isQuote _ _ _ (by simpa using isQuote_quote h)
    (by simpa using isQuote_quote h) h.head_not_quote h.last_not_quote

theorem comma_not_mem_render (h : it.Ok) : .char ',' ∉ it.render := by
  intro hm
  simp only [render, List.mem_append, List.mem_cons, Point.char.injEq] at hm
  rcases hm with hm | hm | hm | hm | hm
  · exact absurd (h.lead_blank _ hm) (by decide)
  · exact quote_ne_comma h hm.symm
  · exact h.comma_not_mem hm
  · exact quote_ne_comma h hm.symm
  · exact absurd (h.trail_blank _ hm) (by decide)

/-- Every code point of an item may stand among a list's items. -/
theorem test_render (h : it.Ok) :
    ∀ x ∈ it.render, (CharClass.complement (.char ']')).test x = true := by
  intro x hm
  simp only [render, List.mem_append, List.mem_cons] at hm
  rcases hm with hm | rfl | hm | rfl | hm
  · exact Pattern.test_blank (h.lead_blank x hm)
  · exact Pattern.test_item (Point.valid_char _) (by simpa using quote_ne_close h)
  · exact Pattern.test_item (h.valid x hm) fun e => h.close_not_mem (e ▸ hm)
  · exact Pattern.test_item (Point.valid_char _) (by simpa using quote_ne_close h)
  · exact Pattern.test_blank (h.trail_blank x hm)

end ListItem

namespace Fields

/-- **A flat list of quoted items** reads back as the items' texts, and a trailing comma as one
empty text more. -/
theorem splitList_flatList {items : List ListItem} (hitems : ∀ it ∈ items, it.Ok)
    {trailing : Option Text} (htrail : ∀ t ∈ trailing, ∀ x ∈ t, x.isBlank = true)
    (hne : items ≠ []) :
    splitList (flatList items trailing) =
      items.map ListItem.text ++ trailing.toList.map fun _ => [] := by
  have hpieces : ∀ l ∈ items.map ListItem.render ++ trailing.toList, Point.char ',' ∉ l := by
    intro l hl
    rcases List.mem_append.mp hl with hl | hl
    · obtain ⟨it, hit, rfl⟩ := List.mem_map.mp hl
      exact ListItem.comma_not_mem_render (hitems it hit)
    · intro hm
      exact absurd (htrail l (Option.mem_toList.mp hl) _ hm) (by decide)
  rw [splitList, flatList, Text.splitOn_single,
    List.splitOn_intercalate _ hpieces (by simp [hne]), List.map_append, List.map_map]
  congr 1
  · refine List.map_congr_left fun it hit => ?_
    exact ListItem.trimmed_render (hitems it hit)
  · refine List.map_congr_left fun t ht => ?_
    have hblank := htrail t (Option.mem_toList.mp ht)
    simp only [Text.trim, Text.trimBy, List.dropWhile_eq_nil_iff.mpr hblank]
    rfl

end Fields

/-- Every code point of a flat list may stand among a list's items: the list closes at the `]`
after it. -/
theorem test_flatList {items : List ListItem} (hitems : ∀ it ∈ items, it.Ok)
    {trailing : Option Text} (htrail : ∀ t ∈ trailing, ∀ x ∈ t, x.isBlank = true) :
    ∀ x ∈ flatList items trailing, (CharClass.complement (.char ']')).test x = true := by
  intro x hm
  rcases Text.mem_intercalate hm with hsep | ⟨l, hl, hml⟩
  · rw [List.mem_singleton.mp hsep]
    rfl
  · rcases List.mem_append.mp hl with hl | hl
    · obtain ⟨it, hit, rfl⟩ := List.mem_map.mp hl
      exact ListItem.test_render (hitems it hit) x hml
    · exact Pattern.test_blank (htrail l (Option.mem_toList.mp hl) x hml)

/-- A flat list of at least one item is not empty: an item has its two quotes. -/
theorem one_le_length_flatList {items : List ListItem} (hne : items ≠ []) (trailing : Option Text) :
    1 ≤ (flatList items trailing).length := by
  obtain ⟨it, rest, rfl⟩ := List.exists_cons_of_ne_nil hne
  have hit : 1 ≤ it.render.length := by
    simp only [ListItem.render, List.length_append, List.length_cons]
    omega
  rw [flatList, List.map_cons, List.cons_append]
  cases h : List.map ListItem.render rest ++ trailing.toList with
  | nil => simpa using hit
  | cons l ls =>
    rw [List.intercalate_cons_cons, List.length_append, List.length_append]
    omega

namespace SingleFields

/-- The connection list of a name among the single fields. -/
def connectionOf (f : SingleFields) : String → Option Text
  | "inputs" => f.inputs
  | "outputs" => f.outputs
  | "credentials" => f.credentials
  | "webhooks" => f.webhooks
  | _ => none

end SingleFields

namespace Schema

/-- The names of the connection lists. -/
def connectionNames : List String := ["inputs", "outputs", "credentials", "webhooks"]

/-- The connection list of a name in a schema. -/
def connectionOf (s : Schema) : String → Option Text
  | "inputs" => s.inputs
  | "outputs" => s.outputs
  | "credentials" => s.credentials
  | "webhooks" => s.webhooks
  | _ => none

theorem connectionOf_ofContent {k : String} (hk : k ∈ connectionNames) (content : Text) :
    (SingleFields.ofContent content).connectionOf k = SingleFields.connection k content := by
  simp only [connectionNames, List.mem_cons, List.not_mem_nil, or_false] at hk
  rcases hk with rfl | rfl | rfl | rfl <;> rfl

/-- The connection lists of a merged schema are those of the single fields: no other stage
sets them. -/
theorem merged_connectionOf {k : String} (hk : k ∈ connectionNames) (base content : Text) :
    (merged base content).connectionOf k = (SingleFields.ofContent content).connectionOf k := by
  have hsingle : ∀ m : Schema, m.inputs = none → m.outputs = none → m.credentials = none →
      m.webhooks = none →
      (m.withSingle (SingleFields.ofContent content)).connectionOf k =
        (SingleFields.ofContent content).connectionOf k := by
    intro m hi ho hc hw
    simp only [connectionNames, List.mem_cons, List.not_mem_nil, or_false] at hk
    rcases hk with rfl | rfl | rfl | rfl <;>
      simp [connectionOf, SingleFields.connectionOf, withSingle, hi, ho, hc, hw]
  rw [merged, withSubtitle_eq]
  have hsub : ∀ m : Schema, ({ m with subtitle := (m.withSubtitle content).subtitle } :
      Schema).connectionOf k = m.connectionOf k := by
    intro m
    simp only [connectionNames, List.mem_cons, List.not_mem_nil, or_false] at hk
    rcases hk with rfl | rfl | rfl | rfl <;> rfl
  rw [hsub]
  cases h : (Versions.ofContent content).getLast? with
  | none =>
    rw [List.getLast?_eq_none_iff.mp h, withVersions_nil]
    exact hsingle _ rfl rfl rfl rfl
  | some top =>
    rw [withVersions_of_getLast? h]
    exact hsingle _ rfl rfl rfl rfl

/-- Cleaned text is kept by the last cleaning. -/
theorem recleaned_clean (Y : Text) : recleaned (some (Text.clean Y)) = some (Text.clean Y) := by
  simp only [recleaned, Text.clean_clean]
  split <;> rfl

/-- **The first list of a name.** Take a source in which a list field of a name starts, its
items holding no `]`, and no list field of that name starts before it. For a connection list,
the single fields hold the items cleaned of line breaks and repeated blanks, and so does the
schema of a node file with that source. For the group, when the items are quoted texts with no
comma, no `]` and no quote at either end, separated by commas, with blanks around them and
possibly a trailing comma: the group, in the single fields and in the schema, is those texts,
and one empty text more for the trailing comma. -/
theorem lists_of_leftmost (t : FileTree) (file : Text) :
    (∀ k ∈ connectionNames, ∀ A ws ws' Y B : Text, (∀ x ∈ ws, x.isBlank = true) →
      (∀ x ∈ ws', x.isBlank = true) → Y.Valid → .char ']' ∉ Y →
      (∀ u, u ≠ [] → u <:+ A → ¬ ListAt (Text.ofString k) (u ++ (listField k ws ws' Y ++ B))) →
      (SingleFields.ofContent (A ++ (listField k ws ws' Y ++ B))).connectionOf k =
          some (Text.clean Y) ∧
        ((t.readText file).toOption.getD [] = A ++ (listField k ws ws' Y ++ B) →
          ∀ s, extract t file = .ok s → s.connectionOf k = some (Text.clean Y))) ∧
    (∀ (A ws ws' B : Text) (items : List ListItem) (trailing : Option Text),
      (∀ x ∈ ws, x.isBlank = true) → (∀ x ∈ ws', x.isBlank = true) →
      (∀ it ∈ items, it.Ok) → items ≠ [] → (∀ l ∈ trailing, ∀ x ∈ l, x.isBlank = true) →
      (∀ u, u ≠ [] → u <:+ A →
        ¬ ListAt (Text.ofString "group") (u ++ (listField "group" ws ws' (flatList items trailing) ++ B))) →
      (SingleFields.ofContent (A ++ (listField "group" ws ws' (flatList items trailing) ++ B))).group =
          some (items.map ListItem.text ++ trailing.toList.map fun _ => []) ∧
        ((t.readText file).toOption.getD [] =
            A ++ (listField "group" ws ws' (flatList items trailing) ++ B) →
          ∀ s, extract t file = .ok s →
            s.group = items.map ListItem.text ++ trailing.toList.map fun _ => [])) := by
  refine ⟨fun k hk A ws ws' Y B hws hws' hvalid hY hleft => ?_,
    fun A ws ws' B items trailing hws hws' hitems hne htrail hleft => ?_⟩
  · -- a connection list: the first list of its name, cleaned
    have hin : ∀ x ∈ Y, (CharClass.complement (.char ']')).test x = true := fun x hx =>
      Pattern.test_item (hvalid x hx) fun e => hY (e ▸ hx)
    have hfield : (SingleFields.ofContent (A ++ (listField k ws ws' Y ++ B))).connectionOf k =
        some (Text.clean Y) := by
      obtain ⟨m, hm, hgroup⟩ := Pattern.search_bracketList hws hws' hin
        (Nat.zero_le _) hleft
      rw [connectionOf_ofContent hk, SingleFields.connection, Pattern.listed_eq, hm, Option.map_some,
        hgroup]
    refine ⟨hfield, fun hcontent s hs => ?_⟩
    obtain ⟨props, rfl⟩ := extract_eq_ok hs
    have hmerged := merged_connectionOf hk (Node.baseName (Path.ofText file).stem)
      ((t.readText file).toOption.getD [])
    rw [hcontent, hfield] at hmerged
    simp only [connectionNames, List.mem_cons, List.not_mem_nil, or_false] at hk
    rcases hk with rfl | rfl | rfl | rfl <;>
      simpa [connectionOf, hcontent, recleaned_clean] using congrArg recleaned hmerged
  · -- the group: the first list of `group`, cut at its commas
    have hfield : (SingleFields.ofContent
        (A ++ (listField "group" ws ws' (flatList items trailing) ++ B))).group =
        some (items.map ListItem.text ++ trailing.toList.map fun _ => []) := by
      obtain ⟨m, hm, hgroup⟩ := Pattern.search_bracketList hws hws'
        (test_flatList hitems htrail) (one_le_length_flatList hne trailing) hleft
      simp only [SingleFields.ofContent]
      rw [Pattern.bracketed_eq, hm, Option.map_some, hgroup,
        Fields.splitList_flatList hitems htrail hne]
    refine ⟨hfield, fun hcontent s hs => ?_⟩
    have hgroup := (fields_of_extract hs).2.2.2.2.2.1
    simp only [hcontent, hfield, Option.getD_some] at hgroup
    exact hgroup

/-- The lists `inputs: ['main']` and `group: ['transform']`: the single fields hold `'main'`
and the group `transform`. -/
theorem lists_of_leftmost_main :
    (SingleFields.ofContent (Text.ofString "inputs: ['main']")).connectionOf "inputs" =
        some (Text.ofString "'main'") ∧
      (SingleFields.ofContent (Text.ofString "group: ['transform'],")).group =
        some [Text.ofString "transform"] := by
  have hlists := lists_of_leftmost {} []
  have hitem : ListItem.Ok ⟨[], '\'', Text.ofString "transform", []⟩ :=
    ⟨by decide, by decide, by decide, by decide, by decide, by decide, by decide, by decide⟩
  have hinputs := (hlists.1 "inputs" (by decide) [] [] [.char ' '] (Text.ofString "'main'") []
    (by decide) (by decide) (by decide) (by decide)
    fun u hu hsuf => absurd (List.suffix_nil.mp hsuf) hu).1
  have hgroup := (hlists.2 [] [] [.char ' '] [.char ','] [⟨[], '\'', Text.ofString "transform", []⟩]
    none (by decide) (by decide) (by simpa using hitem) (by simp) (by simp)
    fun u hu hsuf => absurd (List.suffix_nil.mp hsuf) hu).1
  exact ⟨hinputs, hgroup⟩

/-- A nested list closes at its first `]`, and a trailing comma in the group gives an empty text
more. -/
theorem lists_stop_at_first_close :
    (SingleFields.ofContent (Text.ofString "inputs: [['a'], 'b']")).connectionOf "inputs" =
        some (Text.ofString "['a'") ∧
      (SingleFields.ofContent (Text.ofString "group: ['a',]")).group =
        some [Text.ofString "a", []] := by
  decide +kernel

end Schema

end NodeCatalog
