import NodeCatalog.Proofs.DocListing
import Mathlib.Data.List.Nodup
/-!
# The paths doc entries record

A doc entry records the path of the doc it was read from: the catalog (`run_doc_extraction`,
`src/tools/extract_docs.py`, lines 80–123, with `extract_metadata`, lines 31–77) the path
below the docs folder, the listing (`get_nodes_metadata`, `src/tools/fetch_all_nodes.py`,
lines 68–84) the path it read. Both write every backslash of that path as `/`. On the file
systems the trees stand for, a backslash is an ordinary character of a name, so a name holding
one is recorded as if it were two names: `a\b/index.md` and `a/b/index.md` are recorded alike,
and the first is recorded as the path of the second.

In a tree whose names hold no backslash, the paths say exactly where each doc is. The catalog's
entries have pairwise distinct paths, and each path, joined to the docs folder, is the path of
the index file the entry was read from. Each path of the listing is the path of the `.md` file
its entry was read from. Distinctness rests on the walk: the names below a directory are
gathered once each, in the order of their code points, and listed in the tree's own order, a
permutation of them; so a directory lists each name once, and a walk meets each directory once,
whatever order the directories list their names in.

- `Point.Valid`, `Text.Before`: real code points, and the order names are listed in.
- `FileTree.pairwise_insertName`: inserting a name keeps names in that order.
- `FileTree.children_nodup`: **a directory lists each name once**.
- `FileTree.walkFrom_nodup`: **a walk meets each directory once**.
- `Catalog.indexFiles_nodup`: the index files of a walk are distinct.
- `Catalog.docPaths_name_their_files`: **the catalog's paths are distinct and lead back to the
  files read, and the listing's paths are the files read, when no name holds a backslash.**
- `Catalog.docPaths_merge_backslash_names`: two docs recorded under one path.
-/

namespace NodeCatalog

namespace Point

/-- A code point that is the one its number names: a surrogate's number is a surrogate's. -/
def Valid (p : Point) : Prop :=
  ofCode p.code = p

instance : DecidablePred Valid := fun p => inferInstanceAs (Decidable (ofCode p.code = p))

theorem valid_char (c : Char) : (Point.char c).Valid := by
  have hc := c.valid
  simp only [UInt32.isValidChar, Nat.isValidChar] at hc
  have hval : c.toNat = c.val.toNat := rfl
  have hns : isSurrogateCode c.toNat = false := by
    simp only [isSurrogateCode]
    rcases hc with h | h <;> simp <;> omega
  simp [Valid, ofCode, hns, code]

/-- Real code points with the same number are the same. -/
theorem eq_of_code_eq {p q : Point} (hp : p.Valid) (hq : q.Valid) (h : p.code = q.code) :
    p = q := by
  rw [← hp, ← hq, h]

end Point

namespace Text

/-- A text of real code points. -/
def Valid (n : Text) : Prop :=
  ∀ x ∈ n, x.Valid

instance : DecidablePred Valid := fun n => inferInstanceAs (Decidable (∀ x ∈ n, x.Valid))

/-- One text before another in the order of their code points, strictly. -/
def Before (a b : Text) : Prop :=
  List.Lex (· < ·) (a.map Point.code) (b.map Point.code)

/-- A text is at most another in code order when it comes before it or has its code points. -/
theorem codeLE_iff (a b : Text) :
    codeLE a b = true ↔ Before a b ∨ a.map Point.code = b.map Point.code := by
  induction a generalizing b with
  | nil => cases b <;> simp [codeLE, Before]
  | cons x xs ih =>
    cases b with
    | nil => simp [codeLE, Before]
    | cons y ys =>
      simp only [Before] at ih
      simp only [codeLE, Before, List.map_cons, List.cons_lex_cons_iff, List.cons.injEq,
        Bool.or_eq_true, decide_eq_true_eq, Bool.and_eq_true, beq_iff_eq, ih]
      tauto

/-- A text is not at most another in code order exactly when the other comes before it. -/
theorem codeLE_eq_false_iff (a b : Text) : codeLE a b = false ↔ Before b a := by
  induction a generalizing b with
  | nil => cases b <;> simp [codeLE, Before]
  | cons x xs ih =>
    cases b with
    | nil => simp [codeLE, Before]
    | cons y ys =>
      simp only [Before] at ih
      simp only [codeLE, Before, List.map_cons, List.cons_lex_cons_iff, Bool.or_eq_false_iff,
        decide_eq_false_iff_not, Bool.and_eq_false_iff, beq_eq_false_iff_ne, ih]
      rcases Nat.lt_trichotomy x.code y.code with h | h | h
      · simp [h, Nat.lt_asymm h, Nat.ne_of_lt h, Nat.ne_of_gt h]
      · simp [h]
      · simp [h, Nat.lt_asymm h, Nat.ne_of_lt h, Nat.ne_of_gt h]

/-- Real texts with the same code points are the same. -/
theorem eq_of_map_code_eq {a b : Text} (ha : a.Valid) (hb : b.Valid)
    (h : a.map Point.code = b.map Point.code) : a = b := by
  induction a generalizing b with
  | nil => simpa [eq_comm] using h
  | cons x xs ih =>
    cases b with
    | nil => simp at h
    | cons y ys =>
      simp only [List.map_cons, List.cons.injEq] at h
      rw [Point.eq_of_code_eq (ha x (by simp)) (hb y (by simp)) h.1,
        ih (fun z hz => ha z (by simp [hz])) (fun z hz => hb z (by simp [hz])) h.2]

/-- Replacing a character a text does not hold changes nothing. -/
theorem replaceChar_of_not_mem {a b : Char} {s : Text} (h : Point.char a ∉ s) :
    replaceChar a b s = s := by
  rw [replaceChar]
  conv_rhs => rw [← List.map_id s]
  refine List.map_congr_left fun p hp => ?_
  have hne : p ≠ Point.char a := fun e => h (e ▸ hp)
  simp [hne]

/-- A point in texts joined by a separator is in the separator or in one of the texts. -/
theorem mem_intercalate {sep : Text} {ls : List Text} {x : Point}
    (h : x ∈ sep.intercalate ls) : x ∈ sep ∨ ∃ l ∈ ls, x ∈ l := by
  induction ls with
  | nil => simp at h
  | cons l ls ih =>
    cases ls with
    | nil => exact .inr ⟨l, by simp, by simpa using h⟩
    | cons l' ls' =>
      rw [List.intercalate_cons_cons] at h
      rcases List.mem_append.mp h with h | h
      · rcases List.mem_append.mp h with h | h
        · exact .inr ⟨l, by simp, h⟩
        · exact .inl h
      · rcases ih h with h | ⟨m, hm, hxm⟩
        · exact .inl h
        · exact .inr ⟨m, List.mem_cons_of_mem l hm, hxm⟩

end Text

namespace FileTree

variable {t : FileTree}

/-! ## A directory lists each name once -/

/-- Inserting a real name into real names in strictly increasing code order keeps them so:
equal code points mean equal names, so the name is either found or placed. -/
theorem pairwise_insertName {n : Text} (hn : n.Valid) {l : List Text} (hl : ∀ m ∈ l, m.Valid)
    (hs : l.Pairwise Text.Before) : (insertName n l).Pairwise Text.Before := by
  induction l with
  | nil => simp [insertName]
  | cons m ms ih =>
    have hs' := List.pairwise_cons.mp hs
    simp only [insertName]
    split_ifs with heq hle
    · exact hs
    · -- placed before `m`, whose code points it does not have
      have hne : n.map Point.code ≠ m.map Point.code := fun h =>
        heq (Text.eq_of_map_code_eq hn (hl m (by simp)) h)
      have hlt : Text.Before n m := ((Text.codeLE_iff n m).mp hle).resolve_right hne
      refine List.pairwise_cons.mpr ⟨fun x hx => ?_, hs⟩
      rcases List.mem_cons.mp hx with rfl | hx
      · exact hlt
      · exact List.lex_trans Nat.lt_trans hlt (hs'.1 x hx)
    · have hlt : Text.Before m n := (Text.codeLE_eq_false_iff n m).mp (by simpa using hle)
      refine List.pairwise_cons.mpr ⟨fun x hx => ?_, ih (fun x hx => hl x (by simp [hx])) hs'.2⟩
      rcases mem_insertName hx with rfl | hx
      · exact hlt
      · exact hs'.1 x hx

/-- Real names inserted one by one into names in strictly increasing order keep them so. -/
theorem pairwise_foldl_insertName {xs acc : List Text} (hxs : ∀ n ∈ xs, n.Valid)
    (hacc : ∀ m ∈ acc, m.Valid) (hs : acc.Pairwise Text.Before) :
    (xs.foldl (fun acc n => insertName n acc) acc).Pairwise Text.Before := by
  induction xs generalizing acc with
  | nil => exact hs
  | cons x xs ih =>
    refine ih (fun n hn => hxs n (by simp [hn])) (fun m hm => ?_)
      (pairwise_insertName (hxs x (by simp)) hacc hs)
    rcases mem_insertName hm with rfl | hm
    · exact hxs m (by simp)
    · exact hacc m hm

/-- Names in strictly increasing order are distinct. -/
theorem nodup_of_pairwise_before {l : List Text} (h : l.Pairwise Text.Before) : l.Nodup := by
  refine h.imp fun {a b} hab e => ?_
  subst e
  exact List.lex_irrefl Nat.lt_irrefl _ hab

/-- A name of real code points and without a backslash. -/
def PlainName (n : Text) : Prop :=
  n.Valid ∧ Point.char '\\' ∉ n

instance : DecidablePred PlainName := fun n =>
  inferInstanceAs (Decidable (n.Valid ∧ Point.char '\\' ∉ n))

/-- A tree whose stored names are plain: real code points and no backslash. -/
def PlainNames (t : FileTree) : Prop :=
  ∀ p ∈ t.stored, ∀ n ∈ p, PlainName n

instance : DecidablePred PlainNames := fun t =>
  inferInstanceAs (Decidable (∀ p ∈ t.stored, ∀ n ∈ p, PlainName n))

/-- The names of the system's paths and of the way to the working directory are plain. -/
theorem plainName_system :
    ∀ s ∈ systemFiles ++ systemDirs, ∀ n ∈ systemParts s, PlainName n := by
  decide +kernel

theorem plainName_home : ∀ n ∈ home, PlainName n := by
  decide +kernel

/-- Every name a location lists in a tree of plain names is plain. -/
theorem plainName_of_mem_children (hp : t.PlainNames) (loc : List Text) {n : Text}
    (hn : n ∈ (t.children loc).1 ∨ n ∈ (t.children loc).2) : PlainName n :=
  forall_children (forall_known plainName_system plainName_home hp) loc hn

/-- In a tree of plain names a location holds each name once: the names are inserted in
strictly increasing code order. -/
theorem namesAt_nodup (hp : t.PlainNames) (loc : List Text) : (t.namesAt loc).Nodup := by
  have hvalid : ∀ n ∈ t.known.filterMap (childOf loc), n.Valid := fun n hn => by
    obtain ⟨q, hq, hqn⟩ := List.mem_filterMap.mp hn
    exact (forall_known plainName_system plainName_home hp q hq n (mem_of_childOf hqn)).1
  exact nodup_of_pairwise_before (pairwise_foldl_insertName hvalid (by simp) List.Pairwise.nil)

/-- In a tree of plain names a location lists each file and each directory once, in whatever
order it lists them. -/
theorem children_nodup (hp : t.PlainNames) (loc : List Text) :
    (t.children loc).1.Nodup ∧ (t.children loc).2.Nodup := by
  have hentries : (t.entries loc).Nodup :=
    (t.listing.perm loc (t.namesAt loc)).nodup_iff.mpr (namesAt_nodup hp loc)
  exact ⟨hentries.filter _, hentries.filter _⟩

/-! ## A walk meets each directory once -/

/-- What every directory a walk meets keeps: its path has any property of path texts that
joining a listed directory name keeps, and it lists the files of some location. -/
theorem walkFrom_invariant (Q : Text → Prop)
    (hQ : ∀ a l d, Q a → d ∈ (t.children l).2 → Q (Path.joinText a d)) :
    ∀ (fuel : Nat) (text : Text) (loc : List Text), Q text →
      ∀ v ∈ t.walkFrom fuel text loc, Q v.path ∧ ∃ l, v.files = (t.children l).1
  | 0, _, _, _, v, hv => by simp [walkFrom] at hv
  | fuel + 1, text, loc, htext, v, hv => by
    simp only [walkFrom, List.mem_cons, List.mem_flatMap] at hv
    rcases hv with rfl | ⟨d, hd, hv⟩
    · exact ⟨htext, loc, rfl⟩
    · exact walkFrom_invariant Q hQ fuel _ _ (hQ text loc d htext hd) v hv

/-- The walk of a path that can be walked starts at that path. -/
theorem walk_eq_walkFrom {s : Text} {visits : List Visit} (h : t.walk s = .ok visits) :
    visits = [] ∨ ∃ fuel loc, visits = t.walkFrom fuel s loc := by
  simp only [walk, bind, Except.bind] at h
  split at h
  · cases h
  split at h
  · cases h
    exact .inr ⟨_, _, rfl⟩
  · cases h
    exact .inl rfl

/-- Proper paths with the same text are the same. -/
theorem toText_inj {p q : Path} (hp : p.Proper) (hq : q.Proper) (h : p.toText = q.toText) :
    p = q := by
  rw [← Path.ofText_toText hp, ← Path.ofText_toText hq, h]

/-- A proper path with one name appended is proper. -/
theorem proper_append_name {p : Path} (hp : p.Proper) {d : Text} (hd : Path.PartOk d) :
    (⟨p.root, p.parts ++ [d]⟩ : Path).Proper :=
  hp.append fun _ hq => (List.mem_singleton.mp hq) ▸ hd

/-- The directories a walk meets below a subdirectory are named by the subdirectory's path
with names appended. -/
theorem walkFrom_below (ht : t.WellNamed) {p : Path} (hp : p.Proper) {d : Text}
    (hd : Path.NameOk d) {fuel : Nat} {loc : List Text} {v : Visit}
    (hv : v ∈ t.walkFrom fuel (Path.joinText p.toText d) loc) :
    ∃ ds, (∀ e ∈ ds, Path.NameOk e) ∧
      v.path = Path.toText ⟨p.root, p.parts ++ d :: ds⟩ := by
  have hpd := proper_append_name hp hd.1
  rw [Path.joinText_toText hp hd.1,
    show (⟨p.root, p.parts ++ [d]⟩ : Path) = ⟨p.root, p.parts ++ [d] ++ []⟩ by simp] at hv
  obtain ⟨ds, hds, hpath, -⟩ := walkFrom_paths ht hpd fuel loc [] (by simp) v hv
  exact ⟨ds, hds, by simpa using hpath⟩

/-- **A walk meets each directory once.** In a well-named tree of plain names, the directories
a walk from a proper path meets have pairwise distinct paths: each directory is listed once by
its parent, and the walks below two different subdirectories meet paths that differ in the
subdirectory's name. -/
theorem walkFrom_nodup (ht : t.WellNamed) (hplain : t.PlainNames) :
    ∀ (fuel : Nat) (p : Path), p.Proper → ∀ loc : List Text,
      ((t.walkFrom fuel p.toText loc).map (·.path)).Nodup
  | 0, _, _, _ => by simp [walkFrom]
  | fuel + 1, p, hp, loc => by
    have hnameOk : ∀ d ∈ (t.children loc).2, Path.NameOk d := fun d hd =>
      nameOk_of_mem_children ht loc (.inr hd)
    simp only [walkFrom, List.map_cons, List.map_flatMap, List.nodup_cons]
    refine ⟨fun hmem => ?_, List.nodup_flatMap.mpr ⟨fun d hd => ?_, ?_⟩⟩
    · -- the top directory has fewer parts than any directory below it
      obtain ⟨d, hd, hmem⟩ := List.mem_flatMap.mp hmem
      obtain ⟨v, hv, hpath⟩ := List.mem_map.mp hmem
      obtain ⟨ds, hds, hvpath⟩ := walkFrom_below ht hp (hnameOk d hd) hv
      have hq : (⟨p.root, p.parts ++ d :: ds⟩ : Path).Proper :=
        hp.append fun q hq => (List.mem_cons.mp hq).elim (fun e => e ▸ (hnameOk d hd).1)
          fun hq => (hds q hq).1
      have := congrArg (·.parts.length) (toText_inj hp hq (hpath.symm.trans hvpath))
      simp at this
    · -- below one subdirectory: a walk from its own proper path
      have hpd := proper_append_name hp (hnameOk d hd).1
      rw [Path.joinText_toText hp (hnameOk d hd).1]
      exact walkFrom_nodup ht hplain fuel _ hpd _
    · -- below two different subdirectories: paths that differ in the subdirectory's name
      refine (children_nodup hplain loc).2.imp_of_mem fun {d₁ d₂} hd₁ hd₂ hne => ?_
      intro x hx₁ hx₂
      obtain ⟨v₁, hv₁, rfl⟩ := List.mem_map.mp hx₁
      obtain ⟨v₂, hv₂, hpath⟩ := List.mem_map.mp hx₂
      obtain ⟨ds₁, hds₁, hpath₁⟩ := walkFrom_below ht hp (hnameOk d₁ hd₁) hv₁
      obtain ⟨ds₂, hds₂, hpath₂⟩ := walkFrom_below ht hp (hnameOk d₂ hd₂) hv₂
      have hproper : ∀ d ∈ (t.children loc).2, ∀ ds, (∀ e ∈ ds, Path.NameOk e) →
          (⟨p.root, p.parts ++ d :: ds⟩ : Path).Proper := fun d hd ds hds =>
        hp.append fun q hq => (List.mem_cons.mp hq).elim (fun e => e ▸ (hnameOk d hd).1)
          fun hq => (hds q hq).1
      have heq := toText_inj (hproper d₁ hd₁ ds₁ hds₁) (hproper d₂ hd₂ ds₂ hds₂)
        (hpath₁.symm.trans (hpath.symm.trans hpath₂))
      simp only [Path.mk.injEq, List.append_cancel_left_eq, List.cons.injEq, true_and] at heq
      exact hne heq.1

/-! ## Path texts a walk builds -/

/-- A name joined to a path text is the last part of the joined text. -/
theorem partsOf_append_slash {b n : Text} (hn : Path.PartOk n) :
    Path.partsOf (b ++ Point.char '/' :: n) = Path.partsOf b ++ [n] := by
  have hsplit : Text.splitOn Path.slash (b ++ Point.char '/' :: n) =
      Text.splitOn Path.slash b ++ [n] := by
    rw [Path.slash_eq, Text.splitOn_single, Text.splitOn_single, List.splitOn_append_cons_self,
      List.splitOn_eq_singleton hn.2.2]
  simp [Path.partsOf, hsplit, hn.1, hn.2.1]

/-- The name of a path text with a proper part joined to it is that part. -/
theorem name_ofText_joinText (a : Text) {n : Text} (hn : Path.PartOk n) :
    (Path.ofText (Path.joinText a n)).name = n := by
  have hlast : ∀ b : Text, (Path.ofText (b ++ Point.char '/' :: n)).name = n := fun b => by
    simp [Path.ofText, Path.name, partsOf_append_slash hn]
  unfold Path.joinText
  rw [Path.startsAtRoot_of_partOk hn]
  simp only [Bool.false_eq_true, if_false]
  split
  · next hend =>
    rcases Bool.or_eq_true_iff.mp hend with hempty | hslash
    · -- nothing before the name
      rw [List.isEmpty_iff.mp hempty, List.nil_append, Path.ofText_of_partOk hn]
      rfl
    · -- the text already ends with `/`
      obtain ⟨b, rfl⟩ : ∃ b, a = b ++ [Point.char '/'] := by
        have hsome : a.getLast? = some (Point.char '/') := by simpa using hslash
        exact ⟨a.dropLast, (List.dropLast_append_getLast? _ hsome).symm⟩
      rw [List.append_assoc, List.singleton_append]
      exact hlast b
  · rw [Path.slash_eq, List.append_assoc, List.singleton_append]
    exact hlast a

/-- A point that neither text holds, other than `/`, is not in the texts joined. -/
theorem not_mem_joinText {c : Point} {a b : Text} (ha : c ∉ a) (hb : c ∉ b)
    (hc : c ≠ Point.char '/') : c ∉ Path.joinText a b := by
  unfold Path.joinText
  split
  · exact hb
  · split
    · simp [ha, hb]
    · simp [Path.slash_eq, ha, hb, hc]

end FileTree

namespace Run

/-- Walking a path the file system refuses stops with its fault and changes nothing. -/
theorem exec_walk_error {path : Text} {s : Session} {f : Fault}
    (h : s.tree.walk path = .error f) : exec (walk path) s = (.error f, s) := by
  simp only [walk]
  rw [exec_bind_ok (exec_tree s), h]
  rfl

end Run

namespace Catalog

variable {t : FileTree} {p : Path} {visits : List FileTree.Visit}

/-- Distinct members stay distinct under a partial function that is one to one on them. -/
theorem nodup_filterMap_of_inj {α β : Type} {l : List α} {g : α → Option β} (hl : l.Nodup)
    (hg : ∀ a ∈ l, ∀ a' ∈ l, ∀ b, g a = some b → g a' = some b → a = a') :
    (l.filterMap g).Nodup := by
  induction l with
  | nil => simp
  | cons a l ih =>
    obtain ⟨hnot, hl'⟩ := List.nodup_cons.mp hl
    have ih' := ih hl' fun x hx y hy b => hg x (by simp [hx]) y (by simp [hy]) b
    rw [List.filterMap_cons]
    cases ha : g a with
    | none => exact ih'
    | some b =>
      refine List.nodup_cons.mpr ⟨fun hb => ?_, ih'⟩
      obtain ⟨a', ha', hgb⟩ := List.mem_filterMap.mp hb
      have heq := hg a (by simp) a' (by simp [ha']) b ha hgb
      subst heq
      exact hnot ha'

/-- The name of the files the catalog reads. -/
def indexName : Text := "index.md"

theorem nameOk_indexName : Path.NameOk indexName := by decide

theorem plainName_indexName : FileTree.PlainName indexName := by decide

/-- The directories a walk from a proper path meets, in a well-named tree of plain names: each
is the path with plain names appended, and lists the files of some location. -/
theorem visits_below (ht : t.WellNamed) (hplain : t.PlainNames) (hp : p.Proper)
    (hwalk : t.walk p.toText = .ok visits) :
    ∀ v ∈ visits, ∃ ds, (∀ d ∈ ds, Path.NameOk d ∧ FileTree.PlainName d) ∧
      v.path = Path.toText ⟨p.root, p.parts ++ ds⟩ ∧ ∃ l, v.files = (t.children l).1 := by
  intro v hv
  rcases FileTree.walk_eq_walkFrom hwalk with rfl | ⟨fuel, loc, rfl⟩
  · cases hv
  -- the invariant: the path so far is the start with plain names appended
  let Q : Text → Prop := fun a =>
    ∃ ds, (∀ d ∈ ds, Path.NameOk d ∧ FileTree.PlainName d) ∧
      a = Path.toText ⟨p.root, p.parts ++ ds⟩
  have hQ : ∀ a l d, Q a → d ∈ (t.children l).2 → Q (Path.joinText a d) := by
    rintro a l d ⟨ds, hds, rfl⟩ hd
    have hdok := FileTree.nameOk_of_mem_children ht l (.inr hd)
    refine ⟨ds ++ [d], fun e he => ?_,
      (Path.joins_toText_append hp (fun e he => (hds e he).1) hdok).1⟩
    rcases List.mem_append.mp he with he | he
    · exact hds e he
    · rw [List.mem_singleton.mp he]
      exact ⟨hdok, FileTree.plainName_of_mem_children hplain l (.inr hd)⟩
  obtain ⟨⟨ds, hds, hpath⟩, hfiles⟩ := FileTree.walkFrom_invariant Q hQ fuel p.toText loc
    ⟨[], by simp, by simp⟩ v hv
  exact ⟨ds, hds, hpath, hfiles⟩

/-- The index file of a directory met on a walk: its path with `index.md` appended. -/
theorem indexFile_of_visit {v : FileTree.Visit} {ds : List Text} (hp : p.Proper)
    (hds : ∀ d ∈ ds, Path.NameOk d) (hpath : v.path = Path.toText ⟨p.root, p.parts ++ ds⟩)
    {f : Text}
    (hf : f ∈ ((FileTree.sortNames v.files).filter (· == indexName)).map fun n =>
      ((Path.ofText v.path).join n).toText) :
    f = Path.toText ⟨p.root, p.parts ++ (ds ++ [indexName])⟩ := by
  obtain ⟨n, hn, rfl⟩ := List.mem_map.mp hf
  have hidx : n = indexName := by simpa [indexName] using (List.mem_filter.mp hn).2
  rw [hidx, hpath, (Path.joins_toText_append hp hds nameOk_indexName).2]

/-- The index files a walk from a proper path meets: the path with plain names appended, then
`index.md`. -/
theorem mem_indexFiles (ht : t.WellNamed) (hplain : t.PlainNames) (hp : p.Proper)
    (hwalk : t.walk p.toText = .ok visits) {f : Text} (hf : f ∈ indexFiles visits) :
    ∃ ds, (∀ d ∈ ds, Path.NameOk d ∧ FileTree.PlainName d) ∧
      f = Path.toText ⟨p.root, p.parts ++ (ds ++ [indexName])⟩ := by
  obtain ⟨v, hv, hf⟩ := List.mem_flatMap.mp hf
  obtain ⟨ds, hds, hpath, -⟩ := visits_below ht hplain hp hwalk v hv
  exact ⟨ds, hds, indexFile_of_visit hp (fun d hd => (hds d hd).1) hpath hf⟩

/-- The index files a walk from a proper path meets are distinct: a directory holds one file of
a name, and the walk meets each directory once. -/
theorem indexFiles_nodup (ht : t.WellNamed) (hplain : t.PlainNames) (hp : p.Proper)
    (hwalk : t.walk p.toText = .ok visits) : (indexFiles visits).Nodup := by
  have hvisits : (visits.map (·.path)).Nodup := by
    rcases FileTree.walk_eq_walkFrom hwalk with rfl | ⟨fuel, loc, rfl⟩
    · simp
    · exact FileTree.walkFrom_nodup ht hplain fuel p hp loc
  refine List.nodup_flatMap.mpr ⟨fun v hv => ?_, ?_⟩
  · -- within a directory: its files are distinct, and every one kept is called `index.md`
    obtain ⟨-, -, -, l, hfiles⟩ := visits_below ht hplain hp hwalk v hv
    refine List.Nodup.map_on (fun x hx y hy _ => ?_) (List.Nodup.filter _ ?_)
    · have hx' : x = indexName := by simpa [indexName] using (List.mem_filter.mp hx).2
      have hy' : y = indexName := by simpa [indexName] using (List.mem_filter.mp hy).2
      rw [hx', hy']
    · rw [(FileTree.perm_sortNames _).nodup_iff, hfiles]
      exact (FileTree.children_nodup hplain l).1
  · -- across directories: the files' paths end with their directories' distinct paths
    refine (List.pairwise_map.mp hvisits).imp_of_mem fun {v w} hv hw hne => ?_
    intro x hxv hxw
    obtain ⟨dsv, hdsv, hpv, -⟩ := visits_below ht hplain hp hwalk v hv
    obtain ⟨dsw, hdsw, hpw, -⟩ := visits_below ht hplain hp hwalk w hw
    have hv' := indexFile_of_visit hp (fun d hd => (hdsv d hd).1) hpv hxv
    have hw' := indexFile_of_visit hp (fun d hd => (hdsw d hd).1) hpw hxw
    have hproper : ∀ ds : List Text, (∀ d ∈ ds, Path.NameOk d ∧ FileTree.PlainName d) →
        (⟨p.root, p.parts ++ (ds ++ [indexName])⟩ : Path).Proper := fun ds hds =>
      hp.append fun q hq => (List.mem_append.mp hq).elim (fun hq => (hds q hq).1.1)
        fun hq => (List.mem_singleton.mp hq) ▸ nameOk_indexName.1
    have heq := FileTree.toText_inj (hproper dsv hdsv) (hproper dsw hdsw) (hv'.symm.trans hw')
    simp only [Path.mk.injEq, List.append_cancel_left_eq, List.append_cancel_right_eq,
      true_and] at heq
    exact hne (by rw [hpv, hpw, heq])

/-! ## The paths entries record -/

/-- The path a catalog entry records: the doc's path seen from the base folder, with
backslashes written as `/`. -/
theorem path_of_readFrom {f base : Text} {e : DocEntry}
    (h : DocEntry.readFrom t f base = some e) :
    e.path = Text.replaceChar '\\' '/' (Path.relative DocEntry.here f base) := by
  simp only [DocEntry.readFrom, DocEntry.ofContent, Option.bind_eq_some_iff,
    Option.map_eq_some_iff] at h
  obtain ⟨-, -, -, -, rfl⟩ := h
  rfl

/-- The path a listing entry records: the path read, with backslashes written as `/`. -/
theorem path_of_listFrom {f : Text} {e : DocEntry} (h : DocEntry.listFrom t f = some e) :
    e.path = Text.replaceChar '\\' '/' f := by
  simp only [DocEntry.listFrom, DocEntry.ofContentListed, Option.bind_eq_some_iff,
    Option.map_eq_some_iff] at h
  obtain ⟨-, -, -, -, rfl⟩ := h
  rfl

/-- Plain names appended to a proper path, seen from it, are those names joined by `/`, which
no backslash is written over; and joined back to the path they give the longer path. -/
theorem join_relative_of_names (hp : p.Proper) {rest : List Text}
    (hrest : ∀ q ∈ rest, Path.NameOk q ∧ FileTree.PlainName q) (hne : rest ≠ []) :
    Text.replaceChar '\\' '/'
        (Path.relative DocEntry.here (Path.toText ⟨p.root, p.parts ++ rest⟩) p.toText) =
      Path.slash.intercalate rest ∧
    ((Path.ofText p.toText).join (Path.slash.intercalate rest)).toText =
      Path.toText ⟨p.root, p.parts ++ rest⟩ := by
  constructor
  · rw [Path.relative_toText_append DocEntry.here hp (fun q hq => (hrest q hq).1) hne]
    refine Text.replaceChar_of_not_mem fun hmem => ?_
    rcases Text.mem_intercalate hmem with hslash | ⟨q, hq, hqm⟩
    · simp [Path.slash_eq] at hslash
    · exact (hrest q hq).2.2 hqm
  · -- the names joined are a relative path whose parts are the names
    have hq : (⟨[], rest⟩ : Path).Proper :=
      ⟨.inl rfl, fun q hq => (hrest q hq).1.1, hne⟩
    have htext : Path.toText ⟨[], rest⟩ = Path.slash.intercalate rest := by
      rw [Path.toText_of_parts (.inl rfl) hne, Path.slash_eq]
      rfl
    have hrel : Path.ofText (Path.slash.intercalate rest) = ⟨[], rest⟩ :=
      htext ▸ Path.ofText_toText hq
    rw [Path.ofText_toText hp, Path.join_of_relative (by rw [hrel]), hrel]

/-- The catalog's entries below the docs folder of a tree of plain names: their paths are
distinct, and each, joined to the docs folder, is the index file the entry was read from. -/
theorem catalogPaths (ht : t.WellNamed) (hplain : t.PlainNames) (docs : Text) :
    ((docEntries t (docsRoot docs)).map (·.path)).Nodup ∧
      ∀ e ∈ docEntries t (docsRoot docs), ∃ f, DocEntry.readFrom t f (docsRoot docs) = some e ∧
        ((Path.ofText (docsRoot docs)).join e.path).toText = f ∧
        (Path.ofText f).name = indexName := by
  have hp := docsRoot_proper docs
  unfold docEntries
  cases hw : t.walk (docsRoot docs) with
  | error => simp
  | ok visits =>
    simp only
    -- every index file is the docs folder with plain names and `index.md` appended
    have hfile : ∀ f ∈ indexFiles visits,
        ∃ ds, (∀ d ∈ ds, Path.NameOk d ∧ FileTree.PlainName d) ∧
          f = Path.toText ⟨_, _ ++ (ds ++ [indexName])⟩ := fun f hf =>
      mem_indexFiles ht hplain hp hw hf
    have hback : ∀ f ∈ indexFiles visits, ((Path.ofText (docsRoot docs)).join
        (Text.replaceChar '\\' '/'
          (Path.relative DocEntry.here f (docsRoot docs)))).toText = f := by
      intro f hf
      obtain ⟨ds, hds, rfl⟩ := hfile f hf
      have hrest : ∀ q ∈ ds ++ [indexName], Path.NameOk q ∧ FileTree.PlainName q :=
        fun q hq => (List.mem_append.mp hq).elim (hds q) fun hq =>
          (List.mem_singleton.mp hq) ▸ ⟨nameOk_indexName, plainName_indexName⟩
      obtain ⟨hrel, hjoin⟩ := join_relative_of_names hp hrest (by simp)
      rw [docsRoot, hrel]
      exact hjoin
    refine ⟨?_, fun e he => ?_⟩
    · -- the path of an entry gives back its file, so distinct files give distinct paths
      rw [List.map_filterMap]
      refine nodup_filterMap_of_inj (indexFiles_nodup ht hplain hp hw)
        fun f hf f' hf' b hb hb' => ?_
      obtain ⟨e, he, rfl⟩ := Option.map_eq_some_iff.mp hb
      obtain ⟨e', he', heq⟩ := Option.map_eq_some_iff.mp hb'
      rw [← hback f hf, ← hback f' hf', ← path_of_readFrom he, ← path_of_readFrom he', heq]
    · obtain ⟨f, hf, hread⟩ := List.mem_filterMap.mp he
      refine ⟨f, hread, by rw [path_of_readFrom hread]; exact hback f hf, ?_⟩
      obtain ⟨ds, hds, rfl⟩ := hfile f hf
      have hproper : (⟨_, _ ++ (ds ++ [indexName])⟩ : Path).Proper :=
        hp.append fun q hq => (List.mem_append.mp hq).elim (fun hq => (hds q hq).1.1)
          fun hq => (List.mem_singleton.mp hq) ▸ nameOk_indexName.1
      rw [Path.name_ofText_toText hproper]
      simp

/-- The listing of a folder whose path holds no backslash, in a tree of plain names: each entry
records the path of the `.md` file it was read from. -/
theorem listingPaths (ht : t.WellNamed) (hplain : t.PlainNames) {start : Text}
    (hstart : Point.char '\\' ∉ start) {s : Session} (hs : s.tree = t) {es : List DocEntry}
    (h : (Run.exec (DocEntry.listAll start) s).1 = .ok es) :
    ∀ e ∈ es, ∃ f, DocEntry.listFrom t f = some e ∧ e.path = f ∧
      DocEntry.isMarkdown (Path.ofText f).name = true := by
  cases hw : t.walk start with
  | error f =>
    have hexec : Run.exec (DocEntry.listAll start) s = (.error f, s) := by
      simp only [DocEntry.listAll]
      exact Run.exec_bind_error (Run.exec_walk_error (hs ▸ hw))
    rw [hexec] at h
    cases h
  | ok visits =>
    rw [DocEntry.exec_listAll hw hs] at h
    cases h
    intro e he
    obtain ⟨f, hf, hlist⟩ := List.mem_filterMap.mp he
    obtain ⟨v, hv, hf⟩ := List.mem_flatMap.mp hf
    obtain ⟨n, hn, rfl⟩ := List.mem_map.mp hf
    obtain ⟨hnfile, hmd⟩ := List.mem_filter.mp hn
    -- the walk joins plain names to the start, so no path it builds holds a backslash
    obtain ⟨hvpath, l, hfiles⟩ :
        Point.char '\\' ∉ v.path ∧ ∃ l, v.files = (t.children l).1 := by
      rcases FileTree.walk_eq_walkFrom hw with rfl | ⟨fuel, loc, rfl⟩
      · cases hv
      · exact FileTree.walkFrom_invariant (fun a => Point.char '\\' ∉ a)
          (fun a l d ha hd => FileTree.not_mem_joinText ha
            (FileTree.plainName_of_mem_children hplain l (.inr hd)).2 (by decide))
          fuel start loc hstart v hv
    replace hnfile := FileTree.mem_sortNames.mp hnfile
    rw [hfiles] at hnfile
    have hnplain := FileTree.plainName_of_mem_children hplain l (.inl hnfile)
    have hnok := FileTree.nameOk_of_mem_children ht l (.inl hnfile)
    refine ⟨_, hlist, ?_, ?_⟩
    · rw [path_of_listFrom hlist,
        Text.replaceChar_of_not_mem (FileTree.not_mem_joinText hvpath hnplain.2 (by decide))]
    · rw [FileTree.name_ofText_joinText _ hnok.1]
      exact hmd

/-- **Doc paths lead back to their files.** In a well-named tree whose names hold only real code
points and no backslash, its directories listing their names in any order: the doc extraction
writes the catalog's entries below the docs folder; their paths are pairwise distinct, and
each, joined to the docs folder, is the path of the `index.md` file the entry was read from.
Each entry the listing of a folder whose path holds no backslash gives records the path of the
`.md` file it was read from. -/
theorem docPaths_name_their_files (t : FileTree) (ht : t.WellNamed) (hplain : t.PlainNames)
    (docs : Text) :
    (∀ (s : Session) (out : Text), s.tree = t → t.kindOf (docsRoot docs) = some .directory →
      ∃ s', Run.exec (writeDocs docs out) s =
        Run.exec (writeDocOutputs (docEntries t (docsRoot docs)) out) s') ∧
    ((docEntries t (docsRoot docs)).map (·.path)).Nodup ∧
    (∀ e ∈ docEntries t (docsRoot docs), ∃ f, DocEntry.readFrom t f (docsRoot docs) = some e ∧
      ((Path.ofText (docsRoot docs)).join e.path).toText = f ∧
      (Path.ofText f).name = Text.ofString "index.md") ∧
    ∀ start : Text, Point.char '\\' ∉ start → ∀ s : Session, s.tree = t →
      ∀ es, (Run.exec (DocEntry.listAll start) s).1 = .ok es →
      ∀ e ∈ es, ∃ f, DocEntry.listFrom t f = some e ∧ e.path = f ∧
        DocEntry.isMarkdown (Path.ofText f).name = true := by
  obtain ⟨hnodup, hback⟩ := catalogPaths ht hplain docs
  refine ⟨fun s out hs hroot => ?_, hnodup, hback,
    fun start hstart s hs es h => listingPaths ht hplain hstart hs h⟩
  obtain ⟨visits, hwalk⟩ := FileTree.walk_isOk_of_kindOf hroot
  exact ⟨_, exec_writeDocs hroot hwalk hs⟩

/-- A docs folder with two index files and a note, every hypothesis met: the catalog records the
two index files under their folders' names. -/
theorem docPaths_of_two_folders :
    let t : FileTree := { files :=
      [(["d", "docs", "integrations", "x", "index.md"],
          Utf8.encode "---\ntitle: T\ndescription: D\n---\n"),
        (["d", "docs", "integrations", "x", "y", "index.md"],
          Utf8.encode "---\ntitle: U\ndescription: E\n---\n"),
        (["d", "docs", "integrations", "x", "notes.md"],
          Utf8.encode "---\ntitle: N\ndescription: F\n---\n")] }
    t.WellNamed ∧ t.PlainNames ∧
    (docEntries t (docsRoot "d")).map (·.path) =
      [Text.ofString "x/index.md", Text.ofString "x/y/index.md"] ∧
    ((∀ (s : Session) (out : Text), s.tree = t → t.kindOf (docsRoot "d") = some .directory →
      ∃ s', Run.exec (writeDocs "d" out) s =
        Run.exec (writeDocOutputs (docEntries t (docsRoot "d")) out) s') ∧
    ((docEntries t (docsRoot "d")).map (·.path)).Nodup ∧
    (∀ e ∈ docEntries t (docsRoot "d"), ∃ f, DocEntry.readFrom t f (docsRoot "d") = some e ∧
      ((Path.ofText (docsRoot "d")).join e.path).toText = f ∧
      (Path.ofText f).name = Text.ofString "index.md") ∧
    ∀ start : Text, Point.char '\\' ∉ start → ∀ s : Session, s.tree = t →
      ∀ es, (Run.exec (DocEntry.listAll start) s).1 = .ok es →
      ∀ e ∈ es, ∃ f, DocEntry.listFrom t f = some e ∧ e.path = f ∧
        DocEntry.isMarkdown (Path.ofText f).name = true) := by
  intro t
  have ht : t.WellNamed := by decide +kernel
  have hplain : t.PlainNames := by decide +kernel
  have hpaths : (docEntries t (docsRoot "d")).map (·.path) =
      [Text.ofString "x/index.md", Text.ofString "x/y/index.md"] := by decide +kernel
  exact ⟨ht, hplain, hpaths, docPaths_name_their_files t ht hplain "d"⟩

/-- A folder named with a backslash and the two folders its name reads as: the tree is
well-named, but the catalog records both index files under one path. -/
theorem docPaths_merge_backslash_names :
    let t : FileTree := { files :=
      [(["d", "docs", "integrations", "a\\b", "index.md"],
          Utf8.encode "---\ntitle: T\ndescription: D\n---\n"),
        (["d", "docs", "integrations", "a", "b", "index.md"],
          Utf8.encode "---\ntitle: U\ndescription: E\n---\n")] }
    t.WellNamed ∧ ¬ t.PlainNames ∧
    (docEntries t (docsRoot "d")).map (·.path) =
      [Text.ofString "a/b/index.md", Text.ofString "a/b/index.md"] := by
  decide +kernel

end Catalog

end NodeCatalog
