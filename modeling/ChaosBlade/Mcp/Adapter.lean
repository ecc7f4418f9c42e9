/-
Mcp.Adapter: the names of external tools, `mcp/adapter.py`.

What is hashed has allowed characters only, so `encode` does not raise.
-/
import Mathlib.Data.List.Infix

namespace ChaosBlade.Mcp

open List

def isAllowed (c : Char) : Bool := c.isAlphanum || c = '_' || c = '-'

/-- `_OPENAI_NAME_INVALID_RE.sub("_", ·)`, within a run of characters that are not allowed or
outside. -/
def collapse (within : Bool) : List Char → List Char
  | [] => []
  | c :: cs =>
    if isAllowed c then c :: collapse false cs
    else if within then collapse true cs else '_' :: collapse true cs

def sanitizePart (name : List Char) : List Char :=
  if collapse false name = [] then ['_'] else collapse false name

def joined (server tool : List Char) : List Char :=
  sanitizePart server ++ '_' :: '_' :: sanitizePart tool

structure Md5 where
  hexdigest : List Char → List Char
  length : ∀ s, (hexdigest s).length = 32
  hex : ∀ s, ∀ c ∈ hexdigest s, c.isAlphanum = true

def safeToolName (md5 : Md5) (server tool : List Char) : List Char :=
  if (joined server tool).length ≤ 64 then joined server tool
  else (joined server tool).take 57 ++ '_' :: (md5.hexdigest (joined server tool)).take 6

abbrev AllAllowed (cs : List Char) : Prop := ∀ c ∈ cs, isAllowed c = true

instance (cs : List Char) : Decidable (AllAllowed cs) := decidable_of_iff _ all_eq_true

theorem collapse_allowed (cs : List Char) (within : Bool) : AllAllowed (collapse within cs) := by
  induction cs generalizing within with
  | nil => exact nofun
  | cons c cs ih =>
    unfold collapse
    split_ifs with h
    · exact forall_mem_cons.mpr ⟨h, ih _⟩
    · exact ih _
    · exact forall_mem_cons.mpr ⟨rfl, ih _⟩

theorem sanitizePart_allowed (name : List Char) : AllAllowed (sanitizePart name) := by
  unfold sanitizePart
  split_ifs
  · exact forall_mem_cons.mpr ⟨rfl, nofun⟩
  · exact collapse_allowed name false

theorem safeToolName_allowed (md5 : Md5) (server tool : List Char) :
    AllAllowed (safeToolName md5 server tool) := by
  have hjoined : AllAllowed (joined server tool) :=
    forall_mem_append.mpr ⟨sanitizePart_allowed server,
      forall_mem_cons.mpr ⟨rfl, forall_mem_cons.mpr ⟨rfl, sanitizePart_allowed tool⟩⟩⟩
  unfold safeToolName
  split_ifs
  · exact hjoined
  · refine forall_mem_append.mpr ⟨fun c hc => hjoined c (mem_of_mem_take hc),
      forall_mem_cons.mpr ⟨rfl, fun c hc => ?_⟩⟩
    simp [isAllowed, md5.hex _ c (mem_of_mem_take hc)]

theorem safeToolName_length (md5 : Md5) (server tool : List Char) :
    1 ≤ (safeToolName md5 server tool).length ∧ (safeToolName md5 server tool).length ≤ 64 := by
  have hjoined : 1 ≤ (joined server tool).length := by
    rw [joined, length_append, length_cons]
    omega
  unfold safeToolName
  split_ifs with h
  · exact ⟨hjoined, h⟩
  · simp only [length_append, length_take, length_cons, md5.length]
    omega

/-- What the first pair has behind its server name, the second has at the end of its own: one
underscore of the separator, or the separator and more. -/
def Shifted (p q : List Char × List Char) : Prop :=
  (sanitizePart q.1 = sanitizePart p.1 ++ ['_'] ∧ sanitizePart p.2 = '_' :: sanitizePart q.2) ∨
  ∃ part, sanitizePart q.1 = sanitizePart p.1 ++ '_' :: '_' :: part ∧
    sanitizePart p.2 = part ++ '_' :: '_' :: sanitizePart q.2

/-- Two pairs that cannot be told apart: sanitising makes them one, or the separator stands
at a second place. -/
inductive Confused (p q : List Char × List Char) : Prop where
  | sanitised (server : sanitizePart p.1 = sanitizePart q.1)
      (tool : sanitizePart p.2 = sanitizePart q.2)
  | shifted (h : Shifted p q)
  | shiftedBack (h : Shifted q p)

theorem shifted_joined {p q : List Char × List Char} (h : Shifted p q) :
    joined p.1 p.2 = joined q.1 q.2 := by
  rcases h with ⟨hserver, htool⟩ | ⟨part, hserver, htool⟩
  · simp [joined, hserver, htool]
  · simp [joined, hserver, htool]

/-- Where one joined name goes on behind the other's server name. -/
theorem separator_cases {t t' cs : List Char} (h : '_' :: '_' :: t = cs ++ '_' :: '_' :: t') :
    (cs = [] ∧ t = t') ∨ (cs = ['_'] ∧ t = '_' :: t') ∨
      ∃ part, cs = '_' :: '_' :: part ∧ t = part ++ '_' :: '_' :: t' := by
  match cs with
  | [] => exact .inl ⟨rfl, by simpa using h⟩
  | [c] =>
    obtain ⟨rfl, ht⟩ := cons.inj h
    exact .inr (.inl ⟨rfl, by simpa using ht⟩)
  | c :: d :: part =>
    obtain ⟨rfl, hd⟩ := cons.inj h
    obtain ⟨rfl, ht⟩ := cons.inj hd
    exact .inr (.inr ⟨part, rfl, ht⟩)

theorem joined_eq_iff {p q : List Char × List Char} :
    joined p.1 p.2 = joined q.1 q.2 ↔ Confused p q := by
  constructor
  · intro h
    rcases append_eq_append_iff.mp h with ⟨cs, hserver, hcs⟩ | ⟨cs, hserver, hcs⟩
    · rcases separator_cases hcs with ⟨rfl, htool⟩ | ⟨rfl, htool⟩ | ⟨part, rfl, htool⟩
      · exact .sanitised (by simpa using hserver.symm) htool
      · exact .shifted (.inl ⟨hserver, htool⟩)
      · exact .shifted (.inr ⟨part, hserver, htool⟩)
    · rcases separator_cases hcs with ⟨rfl, htool⟩ | ⟨rfl, htool⟩ | ⟨part, rfl, htool⟩
      · exact .sanitised (by simpa using hserver) htool.symm
      · exact .shiftedBack (.inl ⟨hserver, htool⟩)
      · exact .shiftedBack (.inr ⟨part, hserver, htool⟩)
  · rintro (⟨hserver, htool⟩ | h | h)
    · rw [joined, joined, hserver, htool]
    · exact shifted_joined h
    · exact (shifted_joined h).symm

/-- Every name is one that the API takes, and two pairs that fit have different names exactly if
they can be told apart. -/
theorem tool_names_differ_iff (md5 : Md5) :
    (∀ server tool, AllAllowed (safeToolName md5 server tool) ∧
      1 ≤ (safeToolName md5 server tool).length ∧ (safeToolName md5 server tool).length ≤ 64) ∧
    ∀ p q : List Char × List Char,
      (joined p.1 p.2).length ≤ 64 → (joined q.1 q.2).length ≤ 64 →
      (safeToolName md5 p.1 p.2 ≠ safeToolName md5 q.1 q.2 ↔ ¬ Confused p q) := by
  refine ⟨fun server tool => ⟨safeToolName_allowed md5 server tool,
    safeToolName_length md5 server tool⟩, fun p q hfit hfit' => not_congr ?_⟩
  rw [safeToolName, safeToolName, if_pos hfit, if_pos hfit']
  exact joined_eq_iff

def zeroMd5 : Md5 where
  hexdigest _ := replicate 32 '0'
  length _ := rfl
  hex _ _ hc := eq_of_mem_replicate hc ▸ rfl

theorem tool_names_differ_two_servers : ¬ Confused ("kb".toList, "read".toList)
    ("k8s".toList, "read".toList) :=
  ((tool_names_differ_iff zeroMd5).2 _ _ (by decide) (by decide)).mp (by decide)

/-- Two server names that become one, and a separator within a name. -/
theorem tool_names_collide : safeToolName zeroMd5 "corp.kb".toList "read".toList =
      safeToolName zeroMd5 "corp_kb".toList "read".toList ∧
    safeToolName zeroMd5 "a__b".toList "c".toList =
        safeToolName zeroMd5 "a".toList "b__c".toList := by
  decide

end ChaosBlade.Mcp
