import NodeCatalog.Proofs.Run
import NodeCatalog.Proofs.FileWrites
/-!
# Writing JSON documents whole

A JSON document is written piece by piece, and a fault stops the writing with the pieces before it
written; a piece that holds a surrogate cannot be stored as UTF-8 and stops the file there too. This
module says, for every value, when its document is written whole: exactly when JSON holds every
value in it, its integers are short enough, and no text or key in it has a surrogate (`Json.whole`).
A writing step is described by the pieces it adds after whatever was written before (`Json.Writes`),
and whether those are written whole composes along the steps (`Json.WritesWhole.bind`), so the
writer's recursion over the value gives the result. The writer is `json.dump(..., indent=2,
ensure_ascii=False)` as `src/tools/extract_schemas.py` (line 226) and `src/tools/extract_docs.py`
(lines 116 and 122) call it.

- `Json.whole`: the values whose document is written whole.
- `Json.writeIndented_whole`: **the indented document of a value is written whole exactly when
  the value is.**
- `Json.whole_list`, `Json.whole_dict`, `Json.whole_str`: whole values of each shape.
- `Run.encodePieces_whole`: pieces are stored whole exactly when none holds a surrogate.
- `Run.exec_writeJson_ok`, `Run.exec_writeJson_error`, `Run.jsonResult_eq_ok`: writing a
  value's document to a file.
-/
namespace NodeCatalog

namespace Point

@[simp] theorem isSurrogate_char (c : Char) : (Point.char c).isSurrogate = false := rfl

@[simp] theorem isSurrogate_surrogate (n : Nat) : (Point.surrogate n).isSurrogate = true := rfl

end Point

namespace Text

@[simp] theorem isChars_ofString (s : String) : (Text.ofString s).isChars = true := by
  simp [Text.isChars, Text.ofString]

@[simp] theorem isChars_append (a b : Text) : (a ++ b).isChars = (a.isChars && b.isChars) := by
  simp [Text.isChars, List.all_append]

end Text

namespace Json

/-! ## The pieces a step writes -/

/-- A writing step that adds the pieces `ps` after whatever was written before, and ends with
`r`. -/
def Writes (e : Emit Unit) (ps : List Text) (r : Except Fault Unit) : Prop :=
  ∀ acc, e.run.run acc = (r, ps.reverse ++ acc)

theorem Writes.put (t : Text) : Writes (Json.put t) [t] (.ok ()) := fun _ => rfl

theorem Writes.fail (f : Fault) : Writes (Json.fail f) [] (.error f) := fun _ => rfl

theorem Writes.pure : Writes (Pure.pure ()) [] (.ok ()) := fun _ => rfl

theorem Writes.bind_ok {x : Emit Unit} {y : Unit → Emit Unit} {ps qs : List Text}
    {r : Except Fault Unit} (hx : Writes x ps (.ok ())) (hy : Writes (y ()) qs r) :
    Writes (x >>= y) (ps ++ qs) r := by
  intro acc
  simp only [ExceptT.run_bind, StateT.run_bind]
  have h1 := hx acc
  simp only [StateT.run] at h1 ⊢
  rw [h1]
  have h2 := hy (ps.reverse ++ acc)
  simp only [StateT.run, List.reverse_append, List.append_assoc] at h2 ⊢
  exact h2

theorem Writes.bind_error {x : Emit Unit} {y : Unit → Emit Unit} {ps : List Text} {f : Fault}
    (hx : Writes x ps (.error f)) : Writes (x >>= y) ps (.error f) := by
  intro acc
  simp only [ExceptT.run_bind, StateT.run_bind]
  have h1 := hx acc
  simp only [StateT.run] at h1 ⊢
  rw [h1]
  rfl

@[simp] theorem isChars_newline (level : Nat) : (newline level).isChars = true := by
  simp [Text.isChars, newline, Point.isSurrogate]

/-! ## Steps written whole -/

/-- Pieces written whole: the writing ended without a fault and every piece can be stored. -/
def Whole (ps : List Text) (r : Except Fault Unit) : Prop :=
  r = .ok () ∧ ∀ p ∈ ps, p.isChars = true

/-- A writing step whose pieces are written whole exactly when `b` holds. -/
def WritesWhole (e : Emit Unit) (b : Bool) : Prop :=
  ∃ ps r, Writes e ps r ∧ (Whole ps r ↔ b = true)

theorem WritesWhole.put (t : Text) : WritesWhole (Json.put t) t.isChars :=
  ⟨[t], .ok (), Writes.put t, by simp [Whole]⟩

theorem WritesWhole.fail (f : Fault) : WritesWhole (Json.fail f) false :=
  ⟨[], .error f, Writes.fail f, by simp [Whole]⟩

theorem WritesWhole.pure : WritesWhole (Pure.pure ()) true :=
  ⟨[], .ok (), Writes.pure, by simp [Whole]⟩

/-- Two steps one after the other are written whole exactly when both are. -/
theorem WritesWhole.bind {x : Emit Unit} {y : Unit → Emit Unit} {a b : Bool}
    (hx : WritesWhole x a) (hy : WritesWhole (y ()) b) : WritesWhole (x >>= y) (a && b) := by
  obtain ⟨ps, r, hxw, hxi⟩ := hx
  obtain ⟨qs, r', hyw, hyi⟩ := hy
  cases r with
  | ok u =>
    refine ⟨ps ++ qs, r', Writes.bind_ok hxw hyw, ?_⟩
    rw [Bool.and_eq_true, ← hxi, ← hyi]
    simp only [Whole, List.mem_append]
    constructor
    · rintro ⟨hr, hall⟩
      exact ⟨⟨trivial, fun p hp => hall p (.inl hp)⟩, hr, fun p hp => hall p (.inr hp)⟩
    · rintro ⟨⟨-, h1⟩, hr, h2⟩
      exact ⟨hr, fun p hp => hp.elim (h1 p) (h2 p)⟩
  | error f =>
    refine ⟨ps, .error f, Writes.bind_error hxw, ?_⟩
    rw [Bool.and_eq_true, ← hxi]
    simp [Whole]

theorem WritesWhole.of_eq {e : Emit Unit} {a b : Bool} (h : WritesWhole e a) (hab : a = b) :
    WritesWhole e b :=
  hab ▸ h

theorem WritesWhole.close (level : Nat) (bracket : String) :
    WritesWhole (Json.close level bracket) true :=
  ((WritesWhole.put _).bind (WritesWhole.put _)).of_eq (by simp)

/-! ## Values written whole -/

mutual
/-- Whether the indented document of a value is written whole: JSON holds every value in it,
its integers are short enough, and no text or key in it has a surrogate. -/
def whole : Value → Bool
  | .list items => wholeItems items
  | .tuple items => wholeItems items
  | .dict entries => wholeEntries entries
  | v =>
    match scalar? v with
    | some (.ok t) => Text.isChars t
    | _ => false

/-- Whether every item of an array is written whole. -/
def wholeItems : List Value → Bool
  | [] => true
  | v :: vs => whole v && wholeItems vs

/-- Whether every key and value of an object is written whole. -/
def wholeEntries : List (Value × Value) → Bool
  | [] => true
  | (k, v) :: es =>
    (match keyText k with
      | .ok key => Text.isChars key
      | .error _ => false) && whole v && wholeEntries es
end

/-- A value written on its own is written whole when its text has no surrogate; a value that
has no text, or whose text is refused, is not. -/
theorem WritesWhole.scalar (o : Option (Except Fault Text)) (k : String) :
    WritesWhole
      (match o with
        | some (.ok t) => Json.put t
        | some (.error f) => Json.fail f
        | none => Json.fail (.notWritable k))
      (match o with
        | some (.ok t) => t.isChars
        | _ => false) := by
  rcases o with _ | _ | t
  · exact WritesWhole.fail _
  · exact WritesWhole.fail _
  · exact WritesWhole.put t


@[simp] theorem isChars_quote (s : Text) : (quote s).isChars = s.isChars := by
  have hpoint : ∀ p : Point, ((escapePoint p).all fun q => !q.isSurrogate) = !p.isSurrogate := by
    intro p
    cases p <;> simp [escapePoint, Point.isSurrogate]
  simp [quote, Text.isChars, List.all_flatMap, hpoint]

/-- A value written on its own is written whole exactly when its text has no surrogate. -/
theorem whole_of_scalar_ok {v : Value} {t : Text} (h : scalar? v = some (.ok t)) :
    whole v = t.isChars := by
  cases v <;> simp_all [scalar?, whole]

/-- A value whose text is refused is not written whole. -/
theorem whole_of_scalar_error {v : Value} {f : Fault} (h : scalar? v = some (.error f)) :
    whole v = false := by
  cases v <;> simp_all [scalar?, whole]

mutual
/-- A value's document is written whole exactly when the value is: by the value's structure,
each container being written whole exactly when its items or entries are. -/
theorem writeValue_whole (level : Nat) (v : Value) :
    WritesWhole (writeValue level v) (whole v) := by
  cases v with
  | list items =>
    cases items with
    | nil => exact (WritesWhole.put _).of_eq (by simp [whole, wholeItems])
    | cons x xs =>
      simp only [writeValue]
      exact ((writeItems_whole (level + 1) _ (by simp) (x :: xs)).bind
        (WritesWhole.close level "]")).of_eq (by simp [whole])
  | tuple items =>
    cases items with
    | nil => exact (WritesWhole.put _).of_eq (by simp [whole, wholeItems])
    | cons x xs =>
      simp only [writeValue]
      exact ((writeItems_whole (level + 1) _ (by simp) (x :: xs)).bind
        (WritesWhole.close level "]")).of_eq (by simp [whole])
  | dict entries =>
    cases entries with
    | nil => exact (WritesWhole.put _).of_eq (by simp [whole, wholeEntries])
    | cons e es =>
      simp only [writeValue]
      exact ((WritesWhole.put _).bind ((WritesWhole.put _).bind
        ((writeEntries_whole (level + 1) true (e :: es)).bind
          (WritesWhole.close level _)))).of_eq (by simp [whole])
  | nothing => exact WritesWhole.scalar (scalar? Value.nothing) Value.nothing.kind
  | bool b => exact WritesWhole.scalar (scalar? (Value.bool b)) (Value.bool b).kind
  | int i => exact WritesWhole.scalar (scalar? (Value.int i)) (Value.int i).kind
  | float x => exact WritesWhole.scalar (scalar? (Value.float x)) (Value.float x).kind
  | complex re im =>
    exact WritesWhole.scalar (scalar? (Value.complex re im)) (Value.complex re im).kind
  | str s => exact WritesWhole.scalar (scalar? (Value.str s)) (Value.str s).kind
  | bytes b => exact WritesWhole.scalar (scalar? (Value.bytes b)) (Value.bytes b).kind
  | ellipsis => exact WritesWhole.scalar (scalar? Value.ellipsis) Value.ellipsis.kind
  | set items => exact WritesWhole.scalar (scalar? (Value.set items)) (Value.set items).kind

/-- The items of an array, each after its lead, are written whole exactly when every item is. -/
theorem writeItems_whole (level : Nat) (lead : Text) (hlead : lead.isChars = true)
    (vs : List Value) : WritesWhole (writeItems level lead vs) (wholeItems vs) := by
  cases vs with
  | nil => exact WritesWhole.pure
  | cons v vs =>
    simp only [writeItems]
    have hrest := writeItems_whole level (Text.ofString "," ++ newline level) (by simp) vs
    -- the first item goes with its lead when written on its own, after it otherwise
    rcases hs : scalar? v with _ | _ | t
    · exact ((WritesWhole.put lead).bind ((writeValue_whole level v).bind hrest)).of_eq
        (by simp [hlead, wholeItems])
    · exact ((WritesWhole.fail _).bind hrest).of_eq
        (by simp [wholeItems, whole_of_scalar_error hs])
    · exact ((WritesWhole.put _).bind hrest).of_eq
        (by simp [hlead, wholeItems, whole_of_scalar_ok hs])

/-- The entries of an object are written whole exactly when every key and value is. -/
theorem writeEntries_whole (level : Nat) (first : Bool) (es : List (Value × Value)) :
    WritesWhole (writeEntries level first es) (wholeEntries es) := by
  cases es with
  | nil => exact WritesWhole.pure
  | cons e es =>
    obtain ⟨k, v⟩ := e
    have hrest := writeEntries_whole level false es
    simp only [writeEntries]
    rcases hk : keyText k with f | key
    · exact (WritesWhole.fail f).of_eq (by simp [wholeEntries, hk])
    · dsimp only
      have hkey : WritesWhole (do
          Json.put (quote key)
          Json.put (Text.ofString ": ")
          writeValue level v
          writeEntries level false es) (key.isChars && (whole v && wholeEntries es)) :=
        ((WritesWhole.put _).bind ((WritesWhole.put _).bind
          ((writeValue_whole level v).bind hrest))).of_eq (by simp)
      -- a separator goes before every entry but the first
      cases first
      · exact ((WritesWhole.put _).bind hkey).of_eq (by simp [wholeEntries, hk, Bool.and_assoc])
      · exact hkey.of_eq (by simp [wholeEntries, hk, Bool.and_assoc])
end

/-- The indented document of a value is written whole, without a fault and with every piece
stored, exactly when the value is. -/
theorem writeIndented_whole (v : Value) :
    ((writeIndented v).2 = none ∧ ∀ p ∈ (writeIndented v).1, p.isChars = true) ↔
      whole v = true := by
  obtain ⟨ps, r, hw, hiff⟩ := writeValue_whole 0 v
  have hrun := hw []
  rw [List.append_nil] at hrun
  rw [← hiff]
  unfold writeIndented
  simp only [hrun]
  cases r <;> simp [Whole]

/-! ## Whole values of each shape -/

theorem wholeItems_eq_all (vs : List Value) : wholeItems vs = vs.all whole := by
  induction vs with
  | nil => rfl
  | cons v vs ih => simp [wholeItems, ih]

/-- A list is written whole when each of its items is. -/
@[simp] theorem whole_list (vs : List Value) : whole (.list vs) = vs.all whole := by
  rw [← wholeItems_eq_all]
  cases vs <;> rfl

@[simp] theorem whole_dict (es : List (Value × Value)) : whole (.dict es) = wholeEntries es := by
  cases es <;> rfl

@[simp] theorem whole_str (s : Text) : whole (.str s) = s.isChars := by
  simp [whole, scalar?]

end Json

/-! ## Storing the pieces -/

namespace Utf8

/-- Text from some position on is stored as UTF-8 exactly when it holds no surrogate. -/
theorem encodeFrom_isOk (pos : Nat) (acc : List UInt8) (t : Text) :
    (encodeFrom pos acc t).isOk = t.isChars := by
  induction t generalizing pos acc with
  | nil => rfl
  | cons p rest ih =>
    cases p with
    | char c => simp [encodeFrom, ih, Text.isChars]
    | surrogate n => simp [encodeFrom, Text.isChars, Except.isOk, Except.toBool]

end Utf8

namespace Run

/-- Pieces are stored whole exactly when none holds a surrogate. -/
theorem encodePieces_whole (ps : List Text) :
    (encodePieces ps).2 = none ↔ ∀ p ∈ ps, p.isChars = true := by
  induction ps with
  | nil => simp [encodePieces]
  | cons p ps ih =>
    have hp : (Utf8.encode? p).isOk = p.isChars := Utf8.encodeFrom_isOk 0 [] p
    simp only [encodePieces]
    rcases he : Utf8.encode? p with f | bs
    · rw [he] at hp
      simp [Except.isOk, Except.toBool] at hp
      simp [hp]
    · rw [he] at hp
      simp [Except.isOk, Except.toBool] at hp
      simp [hp, ih]

/-! ## Writing a document to a file -/

/-- The bytes the JSON document of a value leaves in its file: all of it, or the pieces before
the first fault. -/
def jsonBytes (v : Value) : List UInt8 :=
  (encodePieces (Json.writeIndented v).1).1

/-- How the writing of a value's document ends once its file is open: with the fault of the
first piece holding a surrogate, else with the writer's fault, else without a fault. -/
def jsonResult (v : Value) : Except Fault Unit :=
  match (encodePieces (Json.writeIndented v).1).2, (Json.writeIndented v).2 with
  | some f, _ => .error f
  | none, some f => .error f
  | none, none => .ok ()

/-- The writing of a document ends without a fault exactly when the value is written whole. -/
theorem jsonResult_eq_ok (v : Value) : jsonResult v = .ok () ↔ Json.whole v = true := by
  rw [← Json.writeIndented_whole, ← encodePieces_whole]
  unfold jsonResult
  rcases (encodePieces (Json.writeIndented v).1).2 with _ | f <;>
    rcases (Json.writeIndented v).2 with _ | g <;> simp

variable {path : Text} {v : Value} {t : FileTree}

/-- Writing a value's document to a file the file system refuses stops with its fault and
changes nothing. -/
theorem exec_writeJson_error {f : Fault} (h : t.write path [] = .error f) (s : Session)
    (hs : s.tree = t) : exec (writeJson path v) s = (.error f, s) := by
  subst hs
  simp only [writeJson]
  rw [exec_bind_error (exec_writeBytes_error h)]

/-- Writing a value's document to a file the file system accepts leaves the file holding the
document's bytes, all of them or those before the fault, and ends as `jsonResult` says. -/
theorem exec_writeJson_ok {t₀ : FileTree} (h : t.write path [] = .ok t₀) :
    ∃ t₁, t.write path (jsonBytes v) = .ok t₁ ∧
      ∀ s : Session, s.tree = t →
        exec (writeJson path v) s = (jsonResult v, { s with tree := t₁ }) := by
  obtain ⟨t₁, h₁⟩ : ∃ t₁, t.write path (jsonBytes v) = .ok t₁ :=
    FileTree.write_isOk_bytes h
  refine ⟨t₁, h₁, fun s hs => ?_⟩
  subst hs
  -- the file is emptied first, and writing it again finds the same place
  have hagain : t₀.write path (jsonBytes v) = .ok t₁ := (FileTree.write_write h).trans h₁
  simp only [writeJson]
  rw [exec_bind_ok (exec_writeBytes_ok h)]
  simp only [jsonBytes] at hagain
  unfold jsonResult
  rcases hw : Json.writeIndented v with ⟨pieces, fault⟩
  rw [hw] at hagain
  rcases he : encodePieces pieces with ⟨bytes, unencodable⟩
  rw [he] at hagain
  simp only
  rw [exec_bind_ok (exec_writeBytes_ok hagain)]
  rcases unencodable with _ | f <;> rcases fault with _ | g <;> rfl

end Run

end NodeCatalog
