/-
Fs.Tree: POSIX paths as `pathlib` keeps them, a file system with
symbolic links, and the walks through it.

A path is a list of parts under the root or under the working directory.
`ofText` drops what carries no meaning, the empty pieces of a doubled
slash and the piece `.`, and keeps `..`, which only a walk through the
file system can resolve. A `Location` is what such a walk arrives at: names
from the root down, without `..`.

A walk goes through the parts of a path from a directory. At a link it
goes on with the link's target and what was left of the path. `scan` is
the stretch up to the next link, `walk` follows a bounded number of links.
What the walk may step on is given by `Mode`.

Where the kernel arrives, `realpath` arrives (`walk_resolve`), and it looks
at the links only (`SameLinks.walk`), so a check on the resolved path is
one on the file that is opened, also when directories were made in
between; a resolved path leads to itself (`LinkFree.walk_names`). Access
rights are not part of the model.
-/
import ChaosBlade.Py.Text
import Mathlib.Data.List.Infix

namespace ChaosBlade.Fs

open Py List Option

/-! ## Names and parts -/

def IsName (s : String) : Prop := s ≠ "" ∧ s ≠ "." ∧ s ≠ ".." ∧ '/' ∉ s.toList

instance (s : String) : Decidable (IsName s) := by
  unfold IsName
  infer_instance

@[ext] structure Name where
  text : String
  isName : IsName text
  deriving DecidableEq

inductive Part where
  /-- The part `..`. -/
  | up
  | name (n : Name)
  deriving DecidableEq

namespace Part

def text : Part → String
  | .up => ".."
  | .name n => n.text

def ofText (s : String) : Option Part :=
  if s = ".." then some .up
  else if h : IsName s then some (.name ⟨s, h⟩)
  else none

def name? : Part → Option Name
  | .up => none
  | .name n => some n

end Part

/-- The last suffix of a name, with its dot: a dot that starts or ends the name
starts no suffix. -/
def suffixOf (name : String) : String :=
  let stem := name.toList.rdropWhile (· != '.')
  let tail := name.toList.rtakeWhile (· != '.')
  if 2 ≤ stem.length ∧ tail ≠ [] then String.ofList ('.' :: tail) else ""

/-! ## Paths -/

structure PurePath where
  absolute : Bool
  parts : List Part
  deriving DecidableEq

namespace PurePath

def partsOf (s : String) : List Part := (splitChar '/' s).filterMap Part.ofText

def ofText (s : String) : PurePath := ⟨startsWith s "/", partsOf s⟩

def join (p q : PurePath) : PurePath := if q.absolute then q
    else { p with parts := p.parts ++ q.parts }

def div (p : PurePath) (s : String) : PurePath := p.join (ofText s)

def text (p : PurePath) : String :=
  if p.absolute then "/" ++ Py.join "/" (p.parts.map Part.text)
  else if p.parts.isEmpty then "."
  else Py.join "/" (p.parts.map Part.text)

def parent (p : PurePath) : PurePath := { p with parts := p.parts.dropLast }

def name (p : PurePath) : String := (p.parts.getLast?.map Part.text).getD ""

def suffix (p : PurePath) : String := suffixOf p.name

end PurePath

/-! ## Locations -/

/-- The names from the root down to a file. -/
abbrev Location := List Name

namespace Location

def path (loc : Location) : PurePath := ⟨true, loc.map .name⟩

def ofText (s : String) : Location := (PurePath.partsOf s).filterMap Part.name?

def text (loc : Location) : String := (path loc).text

def suffix (loc : Location) : String := (path loc).suffix

def Below (dir loc : Location) : Prop := ∃ rest, rest ≠ [] ∧ loc = dir ++ rest

theorem text_eq (loc : Location) : text loc = "/" ++ Py.join "/" (loc.map Name.text) := by
  simp [text, path, PurePath.text, Part.text, Function.comp_def]

theorem toList_text (loc : Location) :
    (text loc).toList = '/' :: ['/'].intercalate (loc.map fun n => n.text.toList) := by
  simp [text_eq, Py.join, Function.comp_def]

@[simp] theorem text_nil : text [] = "/" := by decide

/-! ## Texts of locations -/

def slashed (loc : Location) : List Char := loc.flatMap fun n => '/' :: n.text.toList

@[simp] theorem slashed_cons (n : Name) (loc : Location) :
    slashed (n :: loc) = '/' :: n.text.toList ++ slashed loc := rfl

theorem toList_text_cons (n : Name) (loc : Location) :
    (text (n :: loc)).toList = slashed (n :: loc) := by
  rw [toList_text]
  induction loc generalizing n with
  | nil => simp [slashed]
  | cons m loc ih =>
    have hm := ih m
    simp [← hm]

/-- A directory beside another one whose name goes on where that one's ends, or
something in it. -/
def Beside (dir loc : Location) : Prop :=
  ∃ up n m rest, dir = up ++ [n] ∧ loc = up ++ m :: rest ∧ n ≠ m ∧ n.text.toList <+: m.text.toList

theorem prefix_of_word {n m b : List Char} (hn : '/' ∉ n) (h : n <+: m ++ b)
    (hb : ∀ c ∈ b.head?, c = '/') : n <+: m := by
  cases b with
  | nil => simpa using h
  | cons c b =>
    obtain rfl := hb c rfl
    exact (prefix_seam b hn).mp h

theorem prefix_of_slash {n m a b : List Char} (hn : '/' ∉ n) (hm : '/' ∉ m)
    (h : n ++ '/' :: a <+: m ++ b) (hb : ∀ c ∈ b.head?, c = '/') : n = m ∧ '/' :: a <+: b := by
  obtain ⟨rest, rfl⟩ := prefix_of_word hn ((prefix_append n _).trans h) hb
  rw [append_assoc, prefix_append_right_inj] at h
  cases rest with
  | nil => exact ⟨by simp, h⟩
  | cons c rest =>
    have hc : '/' = c := (cons_prefix_cons.mp h).1
    simp [← hc] at hm

theorem head_slashed (loc : Location) : ∀ c ∈ (slashed loc).head?, c = '/' := by
  cases loc <;> simp [slashed]

variable {dir loc : Location}

theorem Beside.cons (h : Beside dir loc) (n : Name) : Beside (n :: dir) (n :: loc) := by
  obtain ⟨up, d, m, rest, rfl, rfl, hne, hpre⟩ := h
  exact ⟨n :: up, d, m, rest, rfl, rfl, hne, hpre⟩

theorem Beside.not_prefix (h : Beside dir loc) : ¬ dir <+: loc := by
  obtain ⟨up, n, m, rest, rfl, rfl, hne, -⟩ := h
  rw [prefix_append_right_inj]
  intro hpre
  exact hne (cons_prefix_cons.mp hpre).1

theorem slashed_start : ∀ {dir loc : Location}, slashed dir <+: slashed loc →
    dir <+: loc ∨ Beside dir loc
  | [], loc, _ => .inl nil_prefix
  | n :: dir, [], h => by simp [slashed] at h
  | [n], m :: loc, h => by
    have hn : n.text.toList <+: m.text.toList ++ slashed loc := by simpa [slashed] using h
    have hpre := prefix_of_word n.isName.2.2.2 hn (head_slashed loc)
    by_cases hnm : n = m
    · exact .inl (by simp [hnm])
    · exact .inr ⟨[], n, m, loc, rfl, rfl, hnm, hpre⟩
  | n :: d :: dir, m :: loc, h => by
    have hn : n.text.toList ++ '/' :: (d.text.toList ++ slashed dir) <+:
        m.text.toList ++ slashed loc := by simpa using h
    obtain ⟨hnm, hrest⟩ :=
      prefix_of_slash n.isName.2.2.2 m.isName.2.2.2 hn (head_slashed loc)
    have heq : n = m := Name.ext (String.toList_injective hnm)
    rcases @slashed_start (d :: dir) loc hrest with hpre | hbeside
    · exact .inl (by simp [heq, hpre])
    · exact .inr (heq ▸ hbeside.cons n)

theorem of_startsWith_text (h : startsWith loc.text dir.text = true) :
    dir <+: loc ∨ Beside dir loc := by
  have hpre : dir.text.toList <+: loc.text.toList := by simpa [startsWith] using h
  cases dir with
  | nil => exact .inl nil_prefix
  | cons n dir =>
    cases loc with
    | nil =>
      rw [toList_text_cons] at hpre
      have hempty : n.text.toList = [] := by
        have htail := (cons_prefix_cons.mp hpre).2
        exact (append_eq_nil_iff.mp (List.prefix_nil.mp htail)).1
      exact absurd (by simpa using hempty) n.isName.1
    | cons m loc =>
      rw [toList_text_cons, toList_text_cons] at hpre
      exact slashed_start hpre

end Location

/-! ## The tree -/

/-- What reading a file gives: its size, what `read_text` returns, and the
text of its first bytes when it is too long to be read as a whole. -/
structure FileData where
  size : Nat
  text : Option String
  head : String := ""
  deriving DecidableEq

inductive Node where
  | file (data : FileData)
  | dir
  | link (target : PurePath)
  deriving DecidableEq

/-- The nodes below the root; the first entry of a location counts. -/
structure Tree where
  nodes : List (Location × Node)

def Node.link? : Node → Option PurePath
  | .link target => some target
  | _ => none

namespace Tree

def node (t : Tree) (loc : Location) : Option Node :=
  if loc = [] then some .dir else t.nodes.lookup loc

def isDir (t : Tree) (loc : Location) : Bool := t.node loc = some .dir

def link? (t : Tree) (loc : Location) : Option PurePath := (t.node loc).bind Node.link?

def entries (t : Tree) (dir : Location) : List Name :=
  (t.nodes.filterMap fun e => if e.1.dropLast = dir then e.1.getLast? else none).dedup

def put (t : Tree) (loc : Location) (node : Node) : Tree := ⟨(loc, node) :: t.nodes⟩

/-! ## Walks -/

inductive Mode where
  | resolve
  | existing
  | creating

def admits (t : Tree) (mode : Mode) (loc : Location) (last : Bool) : Bool :=
  match mode with
  | .resolve => true
  | .existing => if last then (t.node loc).isSome else t.isDir loc
  | .creating => last || t.isDir loc

inductive Stop where
  | arrived (loc : Location)
  | link (base : Location) (target : PurePath) (rest : List Part)

def scan (t : Tree) (mode : Mode) : Location → List Part → Option Stop
  | here, [] => some (.arrived here)
  | here, .up :: rest => scan t mode here.dropLast rest
  | here, .name n :: rest =>
    match t.link? (here ++ [n]) with
    | some target => some (.link here target rest)
    | none => if t.admits mode (here ++ [n]) rest.isEmpty then scan t mode (here ++ [n]) rest
        else none

def base (here : Location) (target : PurePath) : Location := if target.absolute then [] else here

def walk (t : Tree) (mode : Mode) : Nat → Location → List Part → Option Location
  | 0, here, parts =>
    match t.scan mode here parts with
    | some (.arrived loc) => some loc
    | _ => none
  | links + 1, here, parts =>
    match t.scan mode here parts with
    | some (.arrived loc) => some loc
    | some (.link dir target rest) => walk t mode links (base dir target) (target.parts ++ rest)
    | none => none

/-! ## Where walks arrive -/

theorem scan_resolve {t : Tree} {mode : Mode} {stop : Stop} :
    ∀ {here : Location} {parts : List Part}, t.scan mode here parts = some stop →
      t.scan .resolve here parts = some stop
  | here, [], h => by simpa [scan] using h
  | here, .up :: rest, h => by
    rw [scan] at h ⊢
    exact scan_resolve h
  | here, .name n :: rest, h => by
    rw [scan] at h ⊢
    cases hl : t.link? (here ++ [n]) with
    | some target => simpa [hl] using h
    | none =>
      simp only [hl] at h ⊢
      obtain ⟨-, hrest⟩ : _ ∧ t.scan mode (here ++ [n]) rest = some stop := by simpa using h
      simpa [admits] using scan_resolve hrest

attribute [local simp] walk

theorem walk_eq_some {t : Tree} {mode : Mode} {loc : Location} {links : Nat} {here : Location}
    {parts : List Part} (h : t.walk mode links here parts = some loc) :
    t.scan mode here parts = some (.arrived loc) ∨ ∃ n dir target rest, links = n + 1 ∧
      t.scan mode here parts = some (.link dir target rest) ∧
      t.walk mode n (base dir target) (target.parts ++ rest) = some loc := by
  cases hs : t.scan mode here parts with
  | none => cases links <;> simp [hs] at h
  | some stop =>
    cases stop with
    | arrived loc' => cases links <;> simpa [hs] using h
    | link dir target rest =>
      cases links with
      | zero => simp [hs] at h
      | succ n => exact .inr ⟨n, dir, target, rest, rfl, rfl, by simpa [hs] using h⟩

theorem walk_resolve {t : Tree} {mode : Mode} {loc : Location} {links more : Nat} {here : Location}
    {parts : List Part} (hle : links ≤ more) (h : t.walk mode links here parts = some loc) :
    t.walk .resolve more here parts = some loc := by
  rcases walk_eq_some h with hs | ⟨n, dir, target, rest, hn, hs, hrest⟩
  · cases more <;> simp [scan_resolve hs]
  · obtain ⟨more, rfl⟩ : ∃ k, more = k + 1 := ⟨more - 1, by omega⟩
    simpa [scan_resolve hs] using walk_resolve (by omega) hrest
termination_by links

/-! ## Resolved locations -/

def LinkFree (t : Tree) (loc : Location) : Prop := ∀ q, q <+: loc → t.link? q = none

instance (t : Tree) (loc : Location) : Decidable (LinkFree t loc) :=
  decidable_of_iff (∀ q ∈ loc.inits, t.link? q = none) (by simp [LinkFree])

theorem linkFree_nil (t : Tree) : LinkFree t [] := by
  intro q hq
  rw [List.prefix_nil.mp hq]
  rfl

theorem LinkFree.of_prefix {t : Tree} {loc loc' : Location} (h : LinkFree t loc)
    (hpre : loc' <+: loc) : LinkFree t loc' := fun q hq => h q (hq.trans hpre)

theorem LinkFree.append {t : Tree} {loc : Location} {n : Name} (h : LinkFree t loc)
    (hn : t.link? (loc ++ [n]) = none) : LinkFree t (loc ++ [n]) := by
  intro q hq
  rcases List.prefix_concat_iff.mp hq with rfl | hq
  · exact hn
  · exact h q hq

def Stop.loc : Stop → Location
  | .arrived loc => loc
  | .link base _ _ => base

theorem LinkFree.scan {t : Tree} {mode : Mode} {stop : Stop} :
    ∀ {here : Location} {parts : List Part}, LinkFree t here →
      t.scan mode here parts = some stop → LinkFree t stop.loc
  | here, [], hfree, h => by
    cases h
    exact hfree
  | here, .up :: rest, hfree, h => LinkFree.scan (hfree.of_prefix (List.dropLast_prefix here)) h
  | here, .name n :: rest, hfree, h => by
    rw [Tree.scan] at h
    cases hl : t.link? (here ++ [n]) with
    | some target =>
      obtain rfl : Stop.link here target rest = stop := by simpa [hl] using h
      exact hfree
    | none =>
      simp only [hl] at h
      obtain ⟨-, hrest⟩ := ite_none_right_eq_some.mp h
      exact LinkFree.scan (hfree.append hl) hrest

theorem LinkFree.walk {t : Tree} {mode : Mode} {loc : Location} {links : Nat} {here : Location}
    {parts : List Part} (hfree : LinkFree t here) (h : t.walk mode links here parts = some loc) :
    LinkFree t loc := by
  rcases walk_eq_some h with hs | ⟨n, dir, target, rest, hn, hs, hrest⟩
  · exact hfree.scan hs
  · have hbase : LinkFree t (base dir target) := by
      unfold base
      split
      · exact linkFree_nil t
      · exact hfree.scan hs
    exact hbase.walk hrest
termination_by links

theorem LinkFree.scan_names {t : Tree} {mode : Mode} {stop : Stop} :
    ∀ {rest front : Location}, LinkFree t (front ++ rest) →
      t.scan mode front (rest.map .name) = some stop → stop = .arrived (front ++ rest)
  | [], front, _, h => by
    cases h
    simp
  | n :: rest, front, hfree, h => by
    have hn : t.link? (front ++ [n]) = none := hfree _ ⟨rest, by simp⟩
    simp only [List.map_cons, Tree.scan, hn] at h
    obtain ⟨-, hrest⟩ := ite_none_right_eq_some.mp h
    have hstop := LinkFree.scan_names (by simpa using hfree) hrest
    simpa using hstop

theorem LinkFree.walk_names {t : Tree} {mode : Mode} {links : Nat} {loc loc' : Location}
    (hfree : LinkFree t loc) (h : t.walk mode links [] (loc.map .name) = some loc') :
    loc' = loc := by
  cases hs : t.scan mode [] (loc.map .name) with
  | none => cases links <;> simp [hs] at h
  | some stop =>
    have hstop : stop = .arrived loc := @LinkFree.scan_names t mode stop loc [] hfree hs
    subst hstop
    cases links <;> simpa [hs, eq_comm] using h

/-! ## Trees with the same links -/

def SameLinks (t t' : Tree) : Prop := ∀ loc, t'.link? loc = t.link? loc

variable {t t' : Tree}

theorem SameLinks.scan (h : SameLinks t t') : ∀ (here : Location) (parts : List Part),
    t'.scan .resolve here parts = t.scan .resolve here parts
  | here, [] => rfl
  | here, .up :: rest => by
    rw [Tree.scan, Tree.scan]
    exact h.scan here.dropLast rest
  | here, .name n :: rest => by
    rw [Tree.scan, Tree.scan, h (here ++ [n])]
    simp only [admits, h.scan (here ++ [n]) rest]

theorem SameLinks.walk (h : SameLinks t t') : ∀ (links : Nat) (here : Location) (parts : List Part),
    t'.walk .resolve links here parts = t.walk .resolve links here parts := by
  intro links
  induction links with
  | zero =>
    intro here parts
    simp [h.scan]
  | succ links ih =>
    intro here parts
    simp [h.scan, ih]

theorem SameLinks.linkFree (h : SameLinks t t') {loc : Location} (hfree : LinkFree t loc) :
    LinkFree t' loc := fun q hq => (h q).trans (hfree q hq)

theorem SameLinks.trans {t'' : Tree} (h : SameLinks t t') (h' : SameLinks t' t'') :
    SameLinks t t'' := fun loc => (h' loc).trans (h loc)

/-! ## Making directories -/

theorem link?_put {node : Node} (hnode : node.link? = none) (t : Tree) (loc loc' : Location) :
    (t.put loc node).link? loc' = if loc' = loc then none else t.link? loc' := by
  by_cases hnil : loc' = []
  · subst hnil
    split <;> rfl
  · split
    · rename_i heq
      subst heq
      simp [link?, Tree.node, put, hnil, hnode]
    · rename_i heq
      simp [link?, Tree.node, put, List.lookup_cons, beq_false_of_ne heq]

theorem sameLinks_put {loc : Location} (h : t.node loc = none) : SameLinks t (t.put loc .dir) := by
  intro loc'
  rw [link?_put rfl]
  split
  · rename_i heq
    simp [heq, link?, h]
  · rfl

theorem LinkFree.put_file {loc : Location} (hfree : LinkFree t loc) (file : Location)
    (data : FileData) : LinkFree (t.put file (.file data)) loc := by
  intro q hq
  rw [link?_put rfl, hfree q hq, ite_self]

/-- Where a directory behind `front` can be made: in a directory, where nothing has
its name. -/
def vacant (t : Tree) (links : Nat) (start : Location) (front : List Part) : Part → Option Location
  | .up => none
  | .name n => (t.walk .existing links start front).bind fun dir =>
    if t.isDir dir ∧ t.node (dir ++ [n]) = none then some (dir ++ [n]) else none

/-- The call `p.mkdir(parents=True, exist_ok=True)` from the part behind `front` on. -/
def mkdirs (t : Tree) (links : Nat) (start : Location) : List Part → List Part → Option Tree
  | _, [] => some t
  | front, part :: rest =>
    let path := front ++ [part]
    if (t.walk .existing links start path).any t.isDir then mkdirs t links start path rest
    else (t.vacant links start front part).bind fun loc =>
      mkdirs (t.put loc .dir) links start path rest

theorem node_vacant {links : Nat} {start loc : Location} {front : List Part} {part : Part}
    (h : t.vacant links start front part = some loc) : t.node loc = none := by
  cases part with
  | up => exact absurd h nofun
  | name n =>
    obtain ⟨dir, -, hdir⟩ := bind_eq_some_iff.mp h
    obtain ⟨⟨-, hfree⟩, hloc⟩ := ite_none_right_eq_some.mp hdir
    cases hloc
    exact hfree

theorem mkdirs_sameLinks {links : Nat}
    {start : Location} : ∀ {rest front : List Part} {t t' : Tree},
    t.mkdirs links start front rest = some t' → SameLinks t t'
  | [], front, t, t', h => by
    have heq : t = t' := by simpa [mkdirs] using h
    exact heq ▸ fun _ => rfl
  | part :: rest, front, t, t', h => by
    rw [mkdirs] at h
    split at h
    · exact mkdirs_sameLinks h
    · obtain ⟨loc, hloc, hrest⟩ := bind_eq_some_iff.mp h
      exact (sameLinks_put (node_vacant hloc)).trans (mkdirs_sameLinks hrest)

end Tree

/-! ## A host -/

/-- What a process sees of the machine it runs on. `homeOf` is `os.path.expanduser`
of a first part `~` or `~user`, `none` if there is no such user; `osError` is the
text of the error the system raises for a path. The kernel gives up after
`kernelLinks` links, and `realpath` takes walks over `pythonLinks` for a loop. The
working directory is the resolved one that `getcwd` gives. -/
structure Host where
  tree : Tree
  cwd : Location
  homeOf : String → Option String
  osError : PurePath → String
  kernelLinks : Nat
  pythonLinks : Nat
  kernel_le_python : kernelLinks ≤ pythonLinks
  cwd_linkFree : tree.LinkFree cwd

namespace Host

def start (h : Host) (p : PurePath) : Location := if p.absolute then [] else h.cwd

def resolve (h : Host) (p : PurePath) : Option Location :=
  h.tree.walk .resolve h.pythonLinks (h.start p) p.parts

def stat (h : Host) (p : PurePath) : Option Location :=
  h.tree.walk .existing h.kernelLinks (h.start p) p.parts

def pathExists (h : Host) (p : PurePath) : Bool := (h.stat p).isSome

def isDir (h : Host) (p : PurePath) : Bool := (h.stat p).any h.tree.isDir

def fileAt (h : Host) (p : PurePath) : Option (Location × FileData) :=
  match h.stat p with
  | none => none
  | some loc => match h.tree.node loc with
    | some (.file data) => some (loc, data)
    | _ => none

def children (h : Host) (p : PurePath) : List PurePath :=
  let names := ((h.stat p).map h.tree.entries).getD []
  (names.mergeSort fun a b => a.text ≤ b.text).map fun n => { p with parts := p.parts ++ [.name n] }

def mkdirs (h : Host) (p : PurePath) : Option Host :=
  (h.tree.mkdirs h.kernelLinks (h.start p) [] p.parts).attach.map fun t =>
    { h with tree := t.1, cwd_linkFree := (Tree.mkdirs_sameLinks t.2).linkFree h.cwd_linkFree }

def openForWriting (h : Host) (p : PurePath) : Option Location :=
  (h.tree.walk .creating h.kernelLinks (h.start p) p.parts).filter fun loc => !h.tree.isDir loc

def write (h : Host) (loc : Location) (data : FileData) : Host :=
  { h with
    tree := h.tree.put loc (.file data)
    cwd_linkFree := h.cwd_linkFree.put_file loc data }

def expanduser (h : Host) (p : PurePath) : Option PurePath :=
  match p.parts with
  | .name n :: rest =>
    if !p.absolute && startsWith n.text "~" then
      (h.homeOf n.text).map fun home =>
        let dir := PurePath.ofText home
        { dir with parts := dir.parts ++ rest }
    else some p
  | _ => some p

variable {h h' : Host} {p q : PurePath} {loc : Location}

theorem resolve_of_stat (hs : h.stat p = some loc) : h.resolve p = some loc :=
  Tree.walk_resolve h.kernel_le_python hs

theorem resolve_of_fileAt {data : FileData} (hf : h.fileAt p = some (loc, data)) :
    h.resolve p = some loc := by
  unfold fileAt at hf
  split at hf
  · exact absurd hf nofun
  · rename_i loc' hs
    split at hf
    · have hloc : loc' = loc := by simpa using congrArg (Option.map Prod.fst) hf
      exact hloc ▸ resolve_of_stat hs
    · exact absurd hf nofun

theorem resolve_of_openForWriting (ho : h.openForWriting p = some loc) : h.resolve p = some loc :=
  Tree.walk_resolve h.kernel_le_python (eq_some_of_filter_eq_some ho)

theorem resolve_mkdirs (hm : h.mkdirs q = some h') : h'.resolve p = h.resolve p := by
  obtain ⟨⟨t, ht⟩, -, rfl⟩ := map_eq_some_iff.mp hm
  exact (Tree.mkdirs_sameLinks ht).walk _ _ _

theorem linkFree_start (h : Host) (p : PurePath) : h.tree.LinkFree (h.start p) := by
  unfold start
  split
  · exact Tree.linkFree_nil h.tree
  · exact h.cwd_linkFree

theorem stat_resolved {loc' : Location} (hr : h.resolve p = some loc)
    (hs : h.stat (Location.path loc) = some loc') : loc' = loc :=
  ((h.linkFree_start p).walk hr).walk_names hs

end Host

end ChaosBlade.Fs
