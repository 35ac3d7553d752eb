import Stencil.Proofs.Condition.RoundTrip
import Stencil.Proofs.Template.RoundTrip
import Stencil.Template.Dictionary

/-!
# `Stencil.Proofs.Template.Dictionary`: trees and their dictionary forms

The dictionary form of a tree has paths and conditions as texts. It loses
nothing all the same, because a path and a condition are told by their
written forms, if the names in them are identifiers. How deep a condition
nests does not matter for that: the canonical form has one spelling, whether
it can be read or not.

Two dictionary forms are compared as values, where the order of the members
of an object means nothing (`Json.same`). `Template.dictionary_same_iff` says
that they are the same if and only if the trees are equal.
-/

set_option autoImplicit false

namespace Stencil

open Text (Blank)
open Condition (nestingLimit)

/-! ### Equality of JSON values -/

namespace Json

mutual

/-- Compares two values. Objects are the same if they have as many members,
and every member of the one is the same in the other. -/
@[simp] def same : Json → Json → Bool
  | .null, .null => true
  | .text s, .text t => s = t
  | .array items, .array others => sameItems items others
  | .object members, .object others =>
    members.length = others.length && sameMembers members others
  | _, _ => false

/-- Compares two arrays, item by item. -/
@[simp] def sameItems : List Json → List Json → Bool
  | [], [] => true
  | item :: rest, other :: others => item.same other && sameItems rest others
  | _, _ => false

/-- Looks every member up among the others. -/
@[simp] def sameMembers : List (Text × Json) → List (Text × Json) → Bool
  | [], _ => true
  | (key, value) :: rest, others =>
    (match others.lookup key with
      | some other => value.same other
      | none => false) && sameMembers rest others

end

end Json

/-! ### The names in a tree -/

namespace Node

variable {τ : Type}

mutual

/-- The names in the paths and conditions of a tree are identifiers. -/
def isLexical : Node τ → Bool
  | .interpolation path _ => path.isLexical
  | .conditional condition children => condition.isLexical && areLexical children
  | .root children => areLexical children
  | .literal _ | .bare => true

/-- The names in the paths and conditions of several trees are
identifiers. -/
def areLexical : List (Node τ) → Bool
  | [] => true
  | node :: rest => node.isLexical && areLexical rest

end

/-! ### Trees with the same dictionary form -/

/-- The transform of an interpolation is told by its entry. -/
theorem same_transform_iff (f g : Option Text) :
    ((f.map Json.text).getD .null).same ((g.map Json.text).getD .null) = true ↔ f = g := by
  cases f <;> cases g <;> simp

mutual

/-- Dictionary forms are the same if and only if the trees are. The types of
two nodes and the number of their members tell their kinds apart. -/
theorem same_dictionary_iff (a b : Node Text) (ha : a.isLexical = true)
    (hb : b.isLexical = true) : a.dictionary.same b.dictionary = true ↔ a = b := by
  -- In each case `cases b` leaves one pair of nodes of the same kind. The entries
  -- `type` of all other pairs differ.
  cases a with
  | literal t => cases b <;> simp [dictionary, typed, List.lookup_cons]
  | interpolation path f =>
    cases b with
    | interpolation path' g =>
      have hpath : path.print = path'.print ↔ path = path' :=
        ⟨Path.print_inj ha hb, congrArg Path.print⟩
      simp [dictionary, typed, List.lookup_cons, hpath, same_transform_iff]
    | _ => simp [dictionary, typed, List.lookup_cons]
  | conditional condition children =>
    cases b with
    | conditional condition' children' =>
      simp only [isLexical, Bool.and_eq_true] at ha hb
      have hcondition : condition.print = condition'.print ↔ condition = condition' :=
        ⟨Condition.print_inj ha.1 hb.1, congrArg Condition.print⟩
      have hchildren := sameItems_dictionaries_iff children children' ha.2 hb.2
      simp [dictionary, typed, List.lookup_cons, hcondition, hchildren]
    | _ => simp [dictionary, typed, List.lookup_cons]
  | root children =>
    cases b with
    | root children' =>
      have hchildren := sameItems_dictionaries_iff children children' ha hb
      simp [dictionary, typed, List.lookup_cons, hchildren]
    | _ => simp [dictionary, typed, List.lookup_cons]
  | bare => cases b <;> simp [dictionary, typed]

/-- Lists of dictionary forms are the same if and only if the lists of trees
are. -/
theorem sameItems_dictionaries_iff (xs ys : List (Node Text)) (hx : areLexical xs = true)
    (hy : areLexical ys = true) :
    Json.sameItems (dictionaries xs) (dictionaries ys) = true ↔ xs = ys := by
  cases xs with
  | nil => cases ys <;> simp [dictionaries]
  | cons x xs =>
    cases ys with
    | nil => simp [dictionaries]
    | cons y ys =>
      simp only [areLexical, Bool.and_eq_true] at hx hy
      have hnode := same_dictionary_iff x y hx.1 hy.1
      have hrest := sameItems_dictionaries_iff xs ys hx.2 hy.2
      simp [dictionaries, hnode, hrest]

end

end Node

/-- The names in a tree that was read are identifiers. -/
theorem Layout.areLexical_nodes {τ : Type} {resolve : Text → Option τ} {label : τ → Text}
    (layout : Layout) : Node.areLexical (Node.mapAll label (layout.nodes resolve)) = true := by
  induction layout with
  | done => rfl
  | literal t next ih => exact ih
  | interpolation l next ih =>
    rw [nodes, Node.mapAll, Node.map, Node.areLexical, Node.isLexical, l.isLexical, ih]
    rfl
  | conditional opener body closer next ihbody ihnext =>
    have hcondition := Condition.Spelling.isLexical_value opener.isProper
    rw [nodes, Node.mapAll, Node.map, Node.areLexical, Node.isLexical, hcondition, ihbody, ihnext]
    rfl

/-! ### Whole templates -/

namespace Template

variable {α β : Type}

/-- A tree that was read has a dictionary form, and the names in it are
identifiers. -/
theorem dictionary?_of_parse {settings : Settings} {resolve : Text → Option (Transform α)}
    {s : Text} {nodes : List (Node (Transform α))}
    (h : (parse settings resolve s).outcome = .ok nodes) :
    (Node.root nodes).names.dictionary? = .ok (Node.root nodes).names.dictionary ∧
      (Node.root nodes).names.isLexical = true := by
  obtain ⟨layout, -, -, rfl⟩ := parse_outcome_eq_ok_iff.mp h
  have hcomplete : (Node.root (layout.nodes resolve)).names.isComplete = true :=
    layout.areComplete_nodes
  exact ⟨if_pos hcomplete, layout.areLexical_nodes⟩

/-- **The dictionary form loses nothing.** Any two trees that were read, from
any templates and with any transforms, have dictionary forms, and these are
the same if and only if the trees are equal. Paths and conditions are told by
their written forms, and no bound on the nesting is needed. -/
theorem dictionary_same_iff (settings settings' : Settings)
    (resolve : Text → Option (Transform α)) (resolve' : Text → Option (Transform β))
    (s s' : Text) (nodes : List (Node (Transform α))) (nodes' : List (Node (Transform β)))
    (h : (parse settings resolve s).outcome = .ok nodes)
    (h' : (parse settings' resolve' s').outcome = .ok nodes') :
    (∃ d d' : Json, (Node.root nodes).names.dictionary? = .ok d ∧
      (Node.root nodes').names.dictionary? = .ok d' ∧
        (d.same d' = true ↔ (Node.root nodes).names = (Node.root nodes').names)) ∧
    (∀ p q : Path, p.isLexical = true → q.isLexical = true → p.print = q.print → p = q) ∧
    ∀ c d : Condition, c.isLexical = true → d.isLexical = true → c.print = d.print → c = d := by
  have hdictionary := dictionary?_of_parse h
  have hdictionary' := dictionary?_of_parse h'
  refine ⟨⟨_, _, hdictionary.1, hdictionary'.1, ?_⟩, ?_, ?_⟩
  · exact Node.same_dictionary_iff _ _ hdictionary.2 hdictionary'.2
  · intro p q
    exact Path.print_inj
  · intro c d
    exact Condition.print_inj

/-- A negation is written with parentheses and without, and the two trees have
the same dictionary form. -/
theorem dictionary_same_iff_negation :
    let s : Text := ['<', '#', 'i', 'f', '(', '!', '(', 'a', '=', '=', 'b', ')', ')', '>', '<',
      '/', '#', 'i', 'f', '>']
    let s' : Text := ['<', '#', 'i', 'f', '(', '!', ' ', 'a', '=', '=', 'b', ')', '>', '<', '/',
      '#', 'i', 'f', '>']
    let nodes : List (Node (Transform Text)) :=
      [.conditional (.not (.compare ⟨['a'], []⟩ .equal ⟨['b'], []⟩)) []]
    (parse Settings.defaults (fun _ => none) s).outcome = .ok nodes ∧
      (parse Settings.defaults (fun _ => none) s').outcome = .ok nodes ∧
      ∃ d d' : Json, (Node.root nodes).names.dictionary? = .ok d ∧
        (Node.root nodes).names.dictionary? = .ok d' ∧ d.same d' = true := by
  intro s s' nodes
  have hcompare : (Condition.Spelling.compare ⟨['a'], []⟩ Blank.none .equal Blank.none
      ⟨['b'], []⟩).IsProper := ⟨by decide, by decide⟩
  have hgroup : (Condition.Spelling.not Blank.none (.group Blank.none (.compare ⟨['a'], []⟩
      Blank.none .equal Blank.none ⟨['b'], []⟩) Blank.none)).IsProper := ⟨rfl, hcompare⟩
  have hblank : (Condition.Spelling.not Blank.single (.compare ⟨['a'], []⟩ Blank.none .equal
      Blank.none ⟨['b'], []⟩)).IsProper := ⟨rfl, hcompare⟩
  have h : (parse Settings.defaults (fun _ => none) s).outcome = .ok nodes :=
    parse_outcome_eq_ok_iff.mpr ⟨.conditional
      ⟨Blank.none, Blank.none, Blank.none, _, Blank.none, Blank.none, hgroup⟩ .done .canonical
      .done, ⟨⟨by decide, (by decide : 2 ≤ nestingLimit), rfl⟩, trivial, trivial⟩, rfl, rfl⟩
  have h' : (parse Settings.defaults (fun _ => none) s').outcome = .ok nodes :=
    parse_outcome_eq_ok_iff.mpr ⟨.conditional
      ⟨Blank.none, Blank.none, Blank.none, _, Blank.none, Blank.none, hblank⟩ .done .canonical
      .done, ⟨⟨by decide, (by decide : 1 ≤ nestingLimit), rfl⟩, trivial, trivial⟩, rfl, rfl⟩
  obtain ⟨⟨d, d', hd, hd', hsame⟩, -⟩ := dictionary_same_iff _ _ _ _ s s' nodes nodes h h'
  exact ⟨h, h', d, d', hd, hd', hsame.mpr rfl⟩

end Template

end Stencil
