import Mathlib.Data.Fintype.Card
import VentureOS.Foundations.Regex

/-! # Redaction of object graphs

`redactSecrets` copies a graph of objects, with `[REDACTED]` under every key that names a secret. An object it has
seen before is returned as it is, and with it all that can be read from there. So the result hides all secrets iff
no object that is met twice leads to a secret (`hidesSecrets_iff`): that of a tree does, that of a graph with
shared objects or cycles need not.

A copy is returned once, where its object is met first, so the copies are a tree, with objects of the input at
some of its leaves. -/

namespace VentureOS.Security

open Regex Relation

/-! ## Object graphs -/

/-- A primitive value. -/
inductive Primitive where
  | undefined
  | null
  | bool (b : Bool)
  | number (literal : String)
  | text (s : String)
  deriving DecidableEq

/-- Whether an object is an array, whose properties are its items, or a plain object. -/
inductive Kind where
  | array
  | record
  deriving DecidableEq

/-- A value in a graph of `n` objects. -/
inductive Value (n : ℕ) where
  | primitive (p : Primitive)
  | object (id : Fin n)

/-- An object: the items of an array are the properties named by their indices. -/
structure Node (V : Type) where
  kind : Kind
  properties : List (String × V)

/-- A graph of objects. -/
abbrev Graph (n : ℕ) := Fin n → Node (Value n)

/-- A value of a result: an object is one of the input, returned as it is, or a copy. -/
inductive Output (n : ℕ) where
  | primitive (p : Primitive)
  | raw (id : Fin n)
  | copy (kind : Kind) (properties : List (String × Output n))

/-! ## Redaction -/

/-- A lower-case literal text under the flag `i` without `u`, where only letters of ASCII have two cases. -/
def literalAnyCase (s : String) : Regex := seqAll (s.toList.map fun c => .cls fun d => d.toLower == c)

/-- `SECRET_KEY_PATTERN`. -/
def secretKeyPattern : Regex :=
  altAll [literalAnyCase "secret", literalAnyCase "password", literalAnyCase "token",
    seqAll [literalAnyCase "api", opt (oneOf "_-"), literalAnyCase "key"],
    literalAnyCase "authorization", literalAnyCase "credential",
    seqAll [literalAnyCase "private", opt (oneOf "_-"), literalAnyCase "key"]]

/-- The property is named like a secret. Items of arrays are not tested, and no index is. -/
def hidden (kind : Kind) (key : String) : Bool := decide (kind = .record) && secretKeyPattern.test key

/-- `REDACTED`. -/
def redacted : Primitive := .text "[REDACTED]"

variable {n : ℕ}

/-- The value of a property of the copy. -/
def redactProperty (redact : List (Fin n) → Value n → Option (Output n × List (Fin n))) (kind : Kind)
    (seen : List (Fin n)) (key : String) (value : Value n) : Option (Output n × List (Fin n)) :=
  if hidden kind key then some (.primitive redacted, seen) else redact seen value

/-- The loop over the items of an array, and that over the entries of an object. An object that is written to
`__proto__` becomes the prototype, and is read under that name. -/
def redactProperties (redact : List (Fin n) → Value n → Option (Output n × List (Fin n))) (kind : Kind) :
    List (Fin n) → List (String × Value n) → Option (List (String × Output n) × List (Fin n))
  | seen, [] => some ([], seen)
  | seen, (key, value) :: rest => do
    let (output, seen) ← redactProperty redact kind seen key value
    let (outputs, seen) ← redactProperties redact kind seen rest
    return ((key, output) :: outputs, seen)

/-- `redactSecrets`. Nested calls have seen one object more, so `fuel` need not exceed the number of objects by
more than one. -/
def redactSecrets (graph : Graph n) : ℕ → List (Fin n) → Value n → Option (Output n × List (Fin n))
  | 0, _, _ => none
  | _ + 1, seen, .primitive p => some (.primitive p, seen)
  | fuel + 1, seen, .object id =>
    if id ∈ seen then some (.raw id, seen)
    else do
      let (properties, seen) ←
        redactProperties (redactSecrets graph fuel) (graph id).kind (id :: seen) (graph id).properties
      return (.copy (graph id).kind properties, seen)

/-- `redactSecrets(value)`. -/
def redact (graph : Graph n) (value : Value n) : Option (Output n) :=
  (redactSecrets graph (n + 1) [] value).map Prod.fst

/-! ## Reading -/

/-- A value of the input, as it is. -/
def Value.output : Value n → Output n
  | .primitive p => .primitive p
  | .object id => .raw id

@[simp] theorem Value.output_primitive (p : Primitive) : (Value.primitive p : Value n).output = .primitive p := rfl

/-- What is found at a value of a result. -/
def look (graph : Graph n) : Output n → Primitive ⊕ Node (Output n)
  | .primitive p => .inl p
  | .raw id => .inr ⟨(graph id).kind, (graph id).properties.map fun property => (property.1, property.2.output)⟩
  | .copy kind properties => .inr ⟨kind, properties⟩

/-- The second value is that of a property of the first. -/
def Child (graph : Graph n) (parent child : Output n) : Prop :=
  ∃ node, look graph parent = .inr node ∧ child ∈ node.properties.map Prod.snd

/-- Every property that can be reached and is named like a secret is redacted. -/
def Hides (graph : Graph n) (root : Output n) : Prop :=
  ∀ output node, ReflTransGen (Child graph) root output → look graph output = .inr node →
    ∀ property ∈ node.properties, hidden node.kind property.1 = true → property.2 = .primitive redacted

/-- No property that can be reached is named like a secret. -/
def Secretless (graph : Graph n) (root : Output n) : Prop :=
  ∀ output node, ReflTransGen (Child graph) root output → look graph output = .inr node →
    ∀ property ∈ node.properties, hidden node.kind property.1 = false

/-- The value of a property, by the position of its key. -/
def property? (graph : Graph n) (output : Output n) (i : ℕ) : Option (Output n) :=
  match look graph output with
  | .inl _ => none
  | .inr node => (node.properties.map Prod.snd)[i]?

/-- A primitive, or an object with its keys. -/
def visible (graph : Graph n) (output : Output n) : Primitive ⊕ Kind × List String :=
  (look graph output).map id fun node => (node.kind, node.properties.map Prod.fst)

/-- The value at the end of a path of properties. -/
def follow (graph : Graph n) (root : Output n) (path : List ℕ) : Option (Output n) :=
  path.foldlM (property? graph) root

/-- What a program reads there. -/
def read (graph : Graph n) (root : Output n) (path : List ℕ) : Option (Primitive ⊕ Kind × List String) :=
  (follow graph root path).map (visible graph)

/-- The properties differ at most in values under keys that name secrets. -/
def AgreeOn (kind : Kind) : List (String × Value n) → List (String × Value n) → Prop :=
  List.Forall₂ fun property property' =>
    property'.1 = property.1 ∧ (hidden kind property.1 = false → property'.2 = property.2)

/-- The graphs differ at most in values under keys that name secrets. -/
def Agree (graph graph' : Graph n) : Prop :=
  ∀ id, (graph' id).kind = (graph id).kind
    ∧ AgreeOn (graph id).kind (graph id).properties (graph' id).properties

/-- The redaction of a value hides its secrets: none can be reached, and what can be read does not depend on
them. -/
def HidesSecrets (graph : Graph n) (value : Value n) : Prop :=
  ∃ output, redact graph value = some output ∧ Hides graph output
    ∧ ∀ graph', Agree graph graph' → ∃ output', redact graph' value = some output'
      ∧ ∀ path, read graph output path = read graph' output' path

/-! ## Walks -/

/-- The object of a value, if it is one. -/
def Value.refs : Value n → List (Fin n)
  | .primitive _ => []
  | .object id => [id]

/-- The objects under keys that do not name secrets. -/
def openRefs (node : Node (Value n)) : List (Fin n) :=
  node.properties.flatMap fun property => if hidden node.kind property.1 then [] else property.2.refs

/-- The object is reached from the value, not through a secret. -/
def Reached (graph : Graph n) (refs : List (Fin n)) (id : Fin n) : Prop :=
  ∃ ref ∈ refs, ReflTransGen (fun parent child => child ∈ openRefs (graph parent)) ref id

/-- The value of a copy is redacted, as far as its own properties go. -/
def Redacted : Output n → Prop
  | .primitive _ => True
  | .raw _ => False
  | .copy kind properties => ∀ property ∈ properties, hidden kind property.1 = true → property.2 = .primitive redacted

/-- A part of a redaction met these references and returned these outputs. It visited some objects, each the first
time it was met, and returned the others as they are, as often as they were met. -/
structure Walk (graph : Graph n) (refs : List (Fin n)) (outputs : List (Output n))
    (seen visited raws : List (Fin n)) : Prop where
  nodup : (visited ++ seen).Nodup
  met : ∀ id, raws.count id + visited.count id
    = refs.count id + (visited.flatMap fun v => openRefs (graph v)).count id
  closed : ∀ id ∈ refs ++ visited.flatMap fun v => openRefs (graph v), id ∈ visited ++ seen
  reached : ∀ id ∈ visited, Reached graph refs id
  returned : ∀ id ∈ raws, ∃ output ∈ outputs, ∃ path, ∀ graph', follow graph' output path = some (.raw id)
  clean : ∀ root ∈ outputs, ∀ output, ReflTransGen (Child graph) root output →
    Redacted output ∨ ∃ id ∈ raws, ReflTransGen (Child graph) (.raw id) output

section Walk

variable {graph : Graph n} {refs refs' : List (Fin n)} {outputs outputs' : List (Output n)}
  {seen visited visited' raws raws' : List (Fin n)}

theorem not_child_primitive {p : Primitive} {output : Output n} : ¬ Child graph (.primitive p) output := by
  rintro ⟨node, hlook, -⟩
  cases hlook

/-- A part that meets no object. -/
theorem Walk.idle (h : seen.Nodup) (houtputs : ∀ output ∈ outputs, ∃ p, output = .primitive p) :
    Walk graph [] outputs seen [] [] where
  nodup := h
  met _ := rfl
  closed := by simp
  reached := by simp
  returned := by simp
  clean root hroot output houtput := by
    obtain ⟨p, rfl⟩ := houtputs root hroot
    rcases houtput.cases_head with rfl | ⟨child, hchild, -⟩
    · exact Or.inl trivial
    · exact absurd hchild not_child_primitive

theorem Walk.raw {id : Fin n} (hid : id ∈ seen) (h : seen.Nodup) : Walk graph [id] [.raw id] seen [] [id] where
  nodup := h
  met _ := rfl
  closed other h := by
    obtain rfl := List.mem_singleton.mp h
    exact hid
  reached _ h := absurd h List.not_mem_nil
  returned other h := by
    obtain rfl := List.mem_singleton.mp h
    exact ⟨_, List.mem_singleton_self _, [], fun _ => rfl⟩
  clean root hroot output houtput := by
    obtain rfl := List.mem_singleton.mp hroot
    exact Or.inr ⟨id, List.mem_singleton_self id, houtput⟩

theorem Reached.mono {id : Fin n} (h : Reached graph refs id) (hsubset : refs ⊆ refs') : Reached graph refs' id := by
  obtain ⟨ref, href, hpath⟩ := h
  exact ⟨ref, hsubset href, hpath⟩

/-- One part after another. -/
theorem Walk.append (h : Walk graph refs outputs seen visited raws)
    (h' : Walk graph refs' outputs' (visited ++ seen) visited' raws') :
    Walk graph (refs ++ refs') (outputs ++ outputs') seen (visited' ++ visited) (raws ++ raws') where
  nodup := by
    rw [List.append_assoc]
    exact h'.nodup
  met id := by
    have hmet := h.met id
    have hmet' := h'.met id
    simp only [List.count_append, List.flatMap_append]
    omega
  closed id hid := by
    have hclosed := h.closed id
    have hclosed' := h'.closed id
    simp only [List.mem_append, List.flatMap_append] at hid hclosed hclosed' ⊢
    tauto
  reached id hid := by
    rcases List.mem_append.mp hid with hid | hid
    · exact (h'.reached id hid).mono (List.subset_append_right _ _)
    · exact (h.reached id hid).mono (List.subset_append_left _ _)
  returned id hid := by
    rcases List.mem_append.mp hid with hid | hid
    · obtain ⟨output, houtput, hpath⟩ := h.returned id hid
      exact ⟨output, List.mem_append_left _ houtput, hpath⟩
    · obtain ⟨output, houtput, hpath⟩ := h'.returned id hid
      exact ⟨output, List.mem_append_right _ houtput, hpath⟩
  clean root hroot output houtput := by
    rcases List.mem_append.mp hroot with hroot | hroot
    · refine (h.clean root hroot output houtput).imp_right ?_
      rintro ⟨id, hid, hpath⟩
      exact ⟨id, List.mem_append_left _ hid, hpath⟩
    · refine (h'.clean root hroot output houtput).imp_right ?_
      rintro ⟨id, hid, hpath⟩
      exact ⟨id, List.mem_append_right _ hid, hpath⟩

/-- The visit of an object, after that of its properties. -/
theorem Walk.copy {id : Fin n} {properties : List (String × Output n)}
    (hredacted : Redacted (.copy (graph id).kind properties))
    (h : Walk graph (openRefs (graph id)) (properties.map Prod.snd) (id :: seen) visited raws) :
    Walk graph [id] [.copy (graph id).kind properties] seen (visited ++ [id]) raws where
  nodup := by simpa using h.nodup
  met other := by
    have hmet := h.met other
    simp only [List.count_append, List.flatMap_append, List.flatMap_singleton]
    omega
  closed other hother := by
    have hclosed := h.closed other
    simp only [List.mem_append, List.mem_cons, List.flatMap_append, List.flatMap_singleton, List.not_mem_nil,
      or_false] at hother hclosed ⊢
    tauto
  reached other hother := by
    refine ⟨id, List.mem_singleton_self id, ?_⟩
    rcases List.mem_append.mp hother with hother | hother
    · obtain ⟨ref, href, hpath⟩ := h.reached other hother
      exact .head href hpath
    · rw [List.mem_singleton.mp hother]
  returned other hother := by
    obtain ⟨output, houtput, path, hpath⟩ := h.returned other hother
    obtain ⟨i, hi⟩ := List.mem_iff_getElem?.mp houtput
    refine ⟨_, List.mem_singleton_self _, i :: path, fun graph' => ?_⟩
    rw [follow, List.foldlM_cons, show property? graph' (.copy (graph id).kind properties) i = some output from hi]
    exact hpath graph'
  clean root hroot output houtput := by
    obtain rfl := List.mem_singleton.mp hroot
    rcases houtput.cases_head with rfl | ⟨child, ⟨node, hlook, hchild⟩, hpath⟩
    · exact Or.inl hredacted
    · obtain rfl := Sum.inr_injective hlook
      exact h.clean child hchild output hpath

/-- The loop over the properties, when the calls are walks. -/
theorem redactProperties_spec {redact : List (Fin n) → Value n → Option (Output n × List (Fin n))} (size : ℕ)
    (hredact : ∀ seen value, seen.Nodup → size ≤ seen.length → ∃ output visited raws,
      redact seen value = some (output, visited ++ seen) ∧ Walk graph value.refs [output] seen visited raws)
    (kind : Kind) (properties : List (String × Value n)) (hnodup : seen.Nodup) (hsize : size ≤ seen.length) :
    ∃ outputs visited raws, redactProperties redact kind seen properties = some (outputs, visited ++ seen)
      ∧ (∀ property ∈ outputs, hidden kind property.1 = true → property.2 = .primitive redacted)
      ∧ Walk graph (openRefs ⟨kind, properties⟩) (outputs.map Prod.snd) seen visited raws := by
  induction properties generalizing seen with
  | nil =>
    exact ⟨[], [], [], rfl, by simp, .idle hnodup (by simp)⟩
  | cons property rest ih =>
    obtain ⟨key, value⟩ := property
    have hfirst : ∃ output visited raws, redactProperty redact kind seen key value = some (output, visited ++ seen)
        ∧ (hidden kind key = true → output = .primitive redacted)
        ∧ Walk graph (if hidden kind key then [] else value.refs) [output] seen visited raws := by
      unfold redactProperty
      by_cases hkey : hidden kind key = true
      · rw [if_pos hkey, if_pos hkey]
        exact ⟨_, [], [], rfl, fun _ => rfl, .idle hnodup (by simp)⟩
      · rw [if_neg hkey, if_neg hkey]
        obtain ⟨output, visited, raws, heq, hwalk⟩ := hredact seen value hnodup hsize
        exact ⟨output, visited, raws, heq, fun h => absurd h hkey, hwalk⟩
    obtain ⟨output, visited, raws, heq, hhidden, hwalk⟩ := hfirst
    obtain ⟨outputs, visited', raws', heq', hhidden', hwalk'⟩ := ih hwalk.nodup (by
      rw [List.length_append]
      omega)
    refine ⟨(key, output) :: outputs, visited' ++ visited, raws ++ raws', ?_, ?_, hwalk.append hwalk'⟩
    · rw [redactProperties, heq]
      simp [heq']
    · exact List.forall_mem_cons.mpr ⟨hhidden, hhidden'⟩

/-- **A redaction ends**, and is a walk. -/
theorem redactSecrets_spec (graph : Graph n) (fuel : ℕ) : ∀ seen value, seen.Nodup → n + 1 ≤ fuel + seen.length →
    ∃ output visited raws, redactSecrets graph fuel seen value = some (output, visited ++ seen)
      ∧ Walk graph value.refs [output] seen visited raws := by
  induction fuel with
  | zero =>
    intro seen _ hnodup hfuel
    have hle := hnodup.length_le_card
    rw [Fintype.card_fin] at hle
    omega
  | succ fuel ih =>
    intro seen value hnodup hfuel
    cases value with
    | primitive p => exact ⟨_, [], [], rfl, .idle hnodup (by simp)⟩
    | object id =>
      by_cases hid : id ∈ seen
      · exact ⟨.raw id, [], [id], if_pos hid, .raw hid hnodup⟩
      · obtain ⟨outputs, visited, raws, heq, hhidden, hwalk⟩ :=
          redactProperties_spec (n + 1 - fuel) (fun seen value h hsize => ih seen value h (by omega))
            (graph id).kind (graph id).properties (List.nodup_cons.mpr ⟨hid, hnodup⟩)
            (by rw [List.length_cons]; omega)
        refine ⟨.copy (graph id).kind outputs, visited ++ [id], raws, ?_, Walk.copy hhidden hwalk⟩
        rw [redactSecrets, if_neg hid, heq]
        simp

end Walk

/-! ## Secrets -/

section Secrets

variable {graph graph' : Graph n}

/-- Values under keys that name secrets are not looked at. -/
theorem redactSecrets_agree (h : Agree graph graph') (fuel : ℕ) :
    redactSecrets graph' fuel = redactSecrets graph fuel := by
  induction fuel with
  | zero => rfl
  | succ fuel ih =>
    have hloop : ∀ (kind : Kind) {properties properties' : List (String × Value n)},
        AgreeOn kind properties properties' → ∀ seen,
          redactProperties (redactSecrets graph fuel) kind seen properties'
            = redactProperties (redactSecrets graph fuel) kind seen properties := by
      intro kind properties properties' hforall
      induction hforall with
      | nil => exact fun _ => rfl
      | @cons property property' rest rest' hproperty _ ihrest =>
        intro seen
        obtain ⟨key, value⟩ := property
        obtain ⟨key', value'⟩ := property'
        obtain ⟨rfl, hvalue⟩ := hproperty
        have hfirst : redactProperty (redactSecrets graph fuel) kind seen key' value'
            = redactProperty (redactSecrets graph fuel) kind seen key' value := by
          unfold redactProperty
          split
          · rfl
          · rename_i hkey
            rw [show value' = value from hvalue (by simpa using hkey)]
        simp only [redactProperties, ihrest, hfirst]
    funext seen value
    cases value with
    | primitive p => rfl
    | object id => rw [redactSecrets, redactSecrets, ih, (h id).1, hloop _ (h id).2]

/-- An object without secrets is the same. -/
theorem Agree.eq_of_secretless (h : Agree graph graph') {id : Fin n}
    (hsecretless : ∀ property ∈ (graph id).properties, hidden (graph id).kind property.1 = false) :
    graph' id = graph id := by
  obtain ⟨hkind, hproperties⟩ := h id
  have heq : (graph id).properties = (graph' id).properties := by
    rw [← List.forall₂_eq_eq_eq]
    refine ((List.forall₂_and_left _ _).mpr ⟨hsecretless, hproperties⟩).imp ?_
    rintro property property' ⟨hopen, hkey, hvalue⟩
    exact (Prod.ext hkey (hvalue hopen)).symm
  rcases hnode : graph' id with ⟨kind, properties⟩
  rw [hnode] at hkind heq
  subst hkind heq
  rfl

theorem Agree.look_eq (h : Agree graph graph') {output : Output n} (hsecretless : ∀ id, output = .raw id →
    ∀ property ∈ (graph id).properties, hidden (graph id).kind property.1 = false) :
    look graph' output = look graph output := by
  cases output with
  | raw id => simp only [look, h.eq_of_secretless (hsecretless id rfl)]
  | _ => rfl

theorem follow_append (root : Output n) (path rest : List ℕ) :
    follow graph root (path ++ rest) = (follow graph root path).bind fun output => follow graph output rest :=
  List.foldlM_append

theorem child_of_property? {output child : Output n} {i : ℕ} (h : property? graph output i = some child) :
    Child graph output child := by
  unfold property? at h
  cases hnode : look graph output with
  | inl p => simp [hnode] at h
  | inr node =>
    rw [hnode] at h
    exact ⟨node, hnode, List.mem_of_getElem? h⟩

/-- What leads to no secret reads the same. -/
theorem read_agree (h : Agree graph graph') (path : List ℕ) : ∀ {output : Output n},
    (∀ id, ReflTransGen (Child graph) output (.raw id) →
      ∀ property ∈ (graph id).properties, hidden (graph id).kind property.1 = false) →
    read graph output path = read graph' output path := by
  induction path with
  | nil =>
    intro output hsecretless
    have hlook := h.look_eq fun id hid => hsecretless id (hid ▸ .refl)
    show some (visible graph output) = some (visible graph' output)
    rw [visible, visible, hlook]
  | cons i path ih =>
    intro output hsecretless
    have hlook := h.look_eq fun id hid => hsecretless id (hid ▸ .refl)
    have hproperty : property? graph' output i = property? graph output i := by
      rw [property?, property?, hlook]
    unfold read follow at ih ⊢
    rw [List.foldlM_cons, List.foldlM_cons, hproperty]
    cases hchild : property? graph output i with
    | none => rfl
    | some child =>
      exact ih fun id hid => hsecretless id (.head (child_of_property? hchild) hid)

/-- Paths are made of properties. -/
theorem reads_of_follow {path : List ℕ} : ∀ {root output : Output n},
    follow graph root path = some output → ReflTransGen (Child graph) root output := by
  induction path with
  | nil =>
    intro root output h
    obtain rfl := Option.some_injective _ h
    exact .refl
  | cons i path ih =>
    intro root output h
    rw [follow, List.foldlM_cons] at h
    cases hchild : property? graph root i with
    | none => simp [hchild] at h
    | some child =>
      rw [hchild] at h
      exact .head (child_of_property? hchild) (ih h)

/-- An object of the input that leads to a secret does so on a path that is the same whatever the secrets are. -/
theorem exists_open_path {output : Output n} {node : Node (Output n)} {property : String × Output n}
    (hlook : look graph output = .inr node) (hproperty : property ∈ node.properties)
    (hhidden : hidden node.kind property.1 = true)
    {root : Output n} (hpath : ReflTransGen (Child graph) root output) : ∀ id, root = .raw id →
    ∃ path k, (∃ property ∈ (graph k).properties, hidden (graph k).kind property.1 = true)
      ∧ ∀ graph', Agree graph graph' → follow graph' (.raw id) path = some (.raw k) := by
  induction hpath using ReflTransGen.head_induction_on with
  | refl =>
    rintro id rfl
    obtain rfl := Sum.inr_injective hlook
    obtain ⟨property, hmem, rfl⟩ := List.mem_map.mp hproperty
    exact ⟨[], id, ⟨property, hmem, hhidden⟩, fun _ _ => rfl⟩
  | @head root child hchild hrest ih =>
    rintro id rfl
    by_cases hsecret : ∃ property ∈ (graph id).properties, hidden (graph id).kind property.1 = true
    · exact ⟨[], id, hsecret, fun _ _ => rfl⟩
    have hopen : ∀ property ∈ (graph id).properties, hidden (graph id).kind property.1 = false := by
      intro property hmem
      exact Bool.not_eq_true _ ▸ fun h => hsecret ⟨property, hmem, h⟩
    obtain ⟨node', hlook', hmem⟩ := hchild
    obtain rfl := Sum.inr_injective hlook'
    obtain ⟨i, hi⟩ := List.mem_iff_getElem?.mp hmem
    simp only [List.map_map, List.mem_map, Function.comp_apply] at hmem
    obtain ⟨⟨key, value⟩, -, rfl⟩ := hmem
    cases value with
    | primitive p =>
      rcases hrest.cases_head with rfl | ⟨other, hother, -⟩
      · cases hlook
      · exact absurd hother not_child_primitive
    | object next =>
      obtain ⟨path, k, hk, hpath⟩ := ih next rfl
      refine ⟨i :: path, k, hk, fun graph' h => ?_⟩
      have hstep : property? graph' (.raw id) i = some (.raw next) := by
        rw [property?, h.look_eq fun _ heq => Output.raw.inj heq ▸ hopen]
        exact hi
      rw [follow, List.foldlM_cons, hstep]
      exact hpath graph' h

/-- The graph with `null` under every key that names a secret. -/
def expose (graph : Graph n) : Graph n := fun id =>
  ⟨(graph id).kind, (graph id).properties.map fun property =>
    (property.1, if hidden (graph id).kind property.1 then .primitive .null else property.2)⟩

theorem agree_expose (graph : Graph n) : Agree graph (expose graph) := by
  refine fun id => ⟨rfl, List.forall₂_map_right_iff.mpr (List.forall₂_same.mpr fun property _ => ⟨rfl, ?_⟩)⟩
  exact fun h => if_neg (Bool.not_eq_true _ ▸ h)

open Classical in
/-- The objects at the places that a redaction comes to: the value, and the properties of the objects reached that
are not named like secrets. -/
noncomputable def places (graph : Graph n) (value : Value n) : List (Fin n) :=
  value.refs ++ ((List.finRange n).filter fun id => Reached graph value.refs id).flatMap fun id =>
    openRefs (graph id)

open Classical in
/-- The walk of a whole redaction returns an object as it is iff the object is at two places. -/
theorem Walk.mem_raws_iff {value : Value n} {output : Output n} {visited raws : List (Fin n)}
    (h : Walk graph value.refs [output] [] visited raws) {id : Fin n} :
    id ∈ raws ↔ 2 ≤ (places graph value).count id := by
  have hnodup : visited.Nodup := List.append_nil visited ▸ h.nodup
  have hreached : ∀ {id}, Reached graph value.refs id → id ∈ visited := by
    rintro id ⟨ref, href, hpath⟩
    induction hpath with
    | refl => simpa using h.closed ref (List.mem_append_left _ href)
    | @tail parent child _ hchild ih =>
      simpa using h.closed child (List.mem_append_right _ (List.mem_flatMap.mpr ⟨parent, ih, hchild⟩))
  have hperm : visited.Perm ((List.finRange n).filter fun id => Reached graph value.refs id) := by
    refine (List.perm_ext_iff_of_nodup hnodup ((List.nodup_finRange n).filter _)).mpr fun id => ?_
    simpa using ⟨h.reached id, hreached⟩
  have hmet : raws.count id + visited.count id = (places graph value).count id := by
    rw [h.met id, (hperm.flatMap_right _).count_eq, ← List.count_append]
    rfl
  have hclosed : id ∈ places graph value → id ∈ visited := by
    intro hid
    simpa using h.closed id (((hperm.flatMap_right _).append_left _).mem_iff.mpr hid)
  have hle := List.nodup_iff_count_le_one.mp hnodup id
  rw [← List.count_pos_iff]
  by_cases hid : id ∈ visited
  · have hpos := List.count_pos_iff.mpr hid
    omega
  · have hzero := List.count_eq_zero.mpr (mt hclosed hid)
    omega

/-- **The secrets are hidden** iff no object at two places leads to one. -/
theorem hidesSecrets_iff (graph : Graph n) (value : Value n) :
    HidesSecrets graph value ↔ ∀ id, 2 ≤ (places graph value).count id → Secretless graph (.raw id) := by
  obtain ⟨output, visited, raws, heq, hwalk⟩ := redactSecrets_spec graph (n + 1) [] value List.nodup_nil le_rfl
  have hredact : ∀ graph', Agree graph graph' → redact graph' value = some output := by
    intro graph' h
    rw [redact, redactSecrets_agree h, heq]
    rfl
  have hself : redact graph value = some output := by rw [redact, heq]; rfl
  have hclean := hwalk.clean output (List.mem_singleton_self output)
  constructor
  · rintro ⟨output', houtput', hhides, hagree⟩ id hid reached node hpath hlook property hproperty
    obtain rfl := Option.some_injective _ (hself.symm.trans houtput')
    by_contra hhidden
    obtain ⟨root, hroot, start, hstart⟩ := hwalk.returned id (hwalk.mem_raws_iff.mpr hid)
    obtain rfl := List.mem_singleton.mp hroot
    obtain ⟨path, k, ⟨secret, hsecret, hname⟩, hopen⟩ :=
      exists_open_path hlook hproperty (Bool.not_eq_false _ ▸ hhidden) hpath id rfl
    obtain ⟨i, hi⟩ := List.mem_iff_getElem?.mp hsecret
    have hfollow : ∀ graph', Agree graph graph' → follow graph' root (start ++ path) = some (.raw k) := by
      intro graph' h
      rw [follow_append, hstart]
      exact hopen graph' h
    have hgraph := hfollow graph fun id => ⟨rfl, List.forall₂_same.mpr fun _ _ => ⟨rfl, fun _ => rfl⟩⟩
    have hexposed := hfollow (expose graph) (agree_expose graph)
    -- The secret reads as redacted here, and as `null` in the graph with `null` for all secrets.
    have hredacted : secret.2.output = .primitive redacted := hhides _ _ (reads_of_follow hgraph) rfl _ (List.mem_map_of_mem hsecret) hname
    obtain ⟨root', hroot', hsame⟩ := hagree _ (agree_expose graph)
    obtain rfl := Option.some_injective _ ((hredact _ (agree_expose graph)).symm.trans hroot')
    have hread := hsame (start ++ path ++ [i])
    rw [read, follow_append, hgraph, read, follow_append, hexposed] at hread
    simp [follow, property?, look, expose, hi, hname, hredacted, visible, redacted] at hread
  · intro hplaces
    have hraws : ∀ id ∈ raws, Secretless graph (.raw id) := fun id hid => hplaces id (hwalk.mem_raws_iff.mp hid)
    refine ⟨output, hself, ?_, fun graph' h => ⟨output, hredact graph' h, fun path => read_agree h path ?_⟩⟩
    · intro other node hother hlook property hproperty hhidden
      rcases hclean other hother with hredacted | ⟨id, hid, hpath⟩
      · cases other with
        | primitive p => cases hlook
        | raw id => exact hredacted.elim
        | copy kind properties =>
          obtain rfl := Sum.inr_injective hlook
          exact hredacted property hproperty hhidden
      · have hfalse := hraws id hid other node hpath hlook property hproperty
        rw [hfalse] at hhidden
        cases hhidden
    · intro id hid property hproperty
      rcases hclean _ hid with hredacted | ⟨raw, hraw, hpath⟩
      · exact hredacted.elim
      · exact hraws raw hraw _ _ hpath rfl _ (List.mem_map_of_mem hproperty)

end Secrets

/-- An object under two keys. -/
def sharedSecret : Graph 2
  | 0 => ⟨.record, [("first", .object 1), ("second", .object 1)]⟩
  | 1 => ⟨.record, [("password", .primitive (.text "hunter2"))]⟩

/-- Under the second key the object is returned as it is, and its password can be read there. -/
theorem shared_object_not_redacted : ¬ HidesSecrets sharedSecret (.object 0) := by
  rintro ⟨output, houtput, hhides, -⟩
  have hcopy : redact sharedSecret (.object 0) = some (.copy .record
      [("first", .copy .record [("password", .primitive redacted)]), ("second", .raw 1)]) := by
    rfl
  obtain rfl := Option.some_injective _ (hcopy.symm.trans houtput)
  have hraw : Child sharedSecret (.copy .record
      [("first", .copy .record [("password", .primitive redacted)]), ("second", .raw 1)]) (.raw 1) :=
    ⟨_, rfl, by simp⟩
  have hpassword := hhides _ _ (.single hraw) rfl ("password", .primitive (.text "hunter2"))
    List.mem_cons_self (by decide)
  exact absurd hpassword (by simp [redacted])

end VentureOS.Security
