import Mathlib.Data.List.Basic
import Mathlib.Tactic.Ring
import Mathlib.Tactic.SplitIfs
import ViewerHost.Server.Route

namespace ViewerHost.Page

open Text

variable {α : Type} {c mark : Char} {s : String} {front back : List Char}

/-! ## Escaped text -/

def entities : List String := ["lt;", "gt;", "amp;", "quot;"]

def markup : List Char := ['<', '>', '"']

theorem escapeChar_cases (c : Char) :
    (∃ entity ∈ entities, escapeChar c = '&' :: entity.toList) ∨
      (c ∉ '&' :: markup ∧ escapeChar c = [c]) := by
  unfold escapeChar
  split_ifs with less more ampersand quote
  · exact Or.inl ⟨"lt;", by decide, rfl⟩
  · exact Or.inl ⟨"gt;", by decide, rfl⟩
  · exact Or.inl ⟨"amp;", by decide, rfl⟩
  · exact Or.inl ⟨"quot;", by decide, rfl⟩
  · exact Or.inr ⟨by simp [markup, less, more, ampersand, quote], rfl⟩

theorem entities_plain : ∀ entity ∈ entities, ∀ mark ∈ '&' :: markup, mark ∉ entity.toList := by
  simp [entities, markup]

theorem toList_escape (s : String) : (escape s).toList = s.toList.flatMap escapeChar := by
  simp [escape]

theorem escape_append (a b : String) : escape (a ++ b) = escape a ++ escape b := by
  simp [escape, String.ofList_append]

def unescape : List Char → List Char
  | '&' :: 'l' :: 't' :: ';' :: cs => '<' :: unescape cs
  | '&' :: 'g' :: 't' :: ';' :: cs => '>' :: unescape cs
  | '&' :: 'a' :: 'm' :: 'p' :: ';' :: cs => '&' :: unescape cs
  | '&' :: 'q' :: 'u' :: 'o' :: 't' :: ';' :: cs => '"' :: unescape cs
  | c :: cs => c :: unescape cs
  | [] => []

theorem unescape_escapeChar_append (c : Char) (cs : List Char) :
    unescape (escapeChar c ++ cs) = c :: unescape cs := by
  unfold escapeChar
  split_ifs with less more ampersand quote
  · rw [less]
    rfl
  · rw [more]
    rfl
  · rw [ampersand]
    rfl
  · rw [quote]
    rfl
  · simp [unescape, ampersand]

theorem unescape_escape (s : String) : unescape (escape s).toList = s.toList := by
  rw [toList_escape]
  induction s.toList with
  | nil => rfl
  | cons c cs ih => rw [List.flatMap_cons, unescape_escapeChar_append, ih]

theorem escape_injective : Function.Injective escape := by
  intro a b same
  rw [← String.toList_inj, ← unescape_escape a, same, unescape_escape]

theorem not_mem_escape (marks : mark ∈ markup) (s : String) : mark ∉ (escape s).toList := by
  rw [toList_escape, List.mem_flatMap]
  rintro ⟨c, -, inside⟩
  have other : mark ≠ '&' := by
    rintro rfl
    exact absurd marks (by decide)
  rcases escapeChar_cases c with ⟨entity, listed, form⟩ | ⟨plain, form⟩
  · rw [form, List.mem_cons, or_iff_right other] at inside
    exact entities_plain entity listed mark (List.mem_cons_of_mem _ marks) inside
  · rw [form, List.mem_singleton] at inside
    rw [← inside] at plain
    exact plain (List.mem_cons_of_mem _ marks)

theorem entity_of_escapeChar (split : escapeChar c = front ++ '&' :: back) :
    ∃ entity ∈ entities, back = entity.toList := by
  rcases escapeChar_cases c with ⟨entity, listed, form⟩ | ⟨plain, form⟩
  · rw [form] at split
    cases front with
    | nil =>
        obtain ⟨-, rest⟩ := List.cons_eq_cons.mp split
        exact ⟨entity, listed, rest.symm⟩
    | cons first front =>
        obtain ⟨-, rest⟩ := List.cons_eq_cons.mp split
        have inside : '&' ∈ entity.toList := by
          rw [rest]
          exact List.mem_append_cons_self
        exact absurd inside (entities_plain entity listed '&' List.mem_cons_self)
  · have inside : '&' ∈ escapeChar c := by
      rw [split]
      exact List.mem_append_cons_self
    rw [form, List.mem_singleton] at inside
    rw [← inside] at plain
    exact absurd List.mem_cons_self plain

theorem entity_of_flatMap {cs : List Char} (split : cs.flatMap escapeChar = front ++ '&' :: back) :
    ∃ entity ∈ entities, entity.toList <+: back := by
  induction cs generalizing front with
  | nil => simp at split
  | cons c cs ih =>
      rw [List.flatMap_cons] at split
      rcases List.append_eq_append_iff.mp split with ⟨more, -, rest⟩ | ⟨more, form, rest⟩
      · exact ih rest
      · cases more with
        | nil =>
            have later : cs.flatMap escapeChar = [] ++ '&' :: back := rest.symm
            exact ih later
        | cons first more =>
            obtain ⟨rfl, behind⟩ := List.cons_eq_cons.mp rest
            obtain ⟨entity, listed, rfl⟩ := entity_of_escapeChar form
            exact ⟨entity, listed, _, behind.symm⟩

theorem entity_of_escape (split : (escape s).toList = front ++ '&' :: back) :
    ∃ entity ∈ entities, entity.toList <+: back := by
  rw [toList_escape] at split
  exact entity_of_flatMap split

/-! ## Counting the markup -/

def occurrences (c : Char) (s : String) : Nat := s.toList.count c

theorem occurrences_append (c : Char) (a b : String) :
    occurrences c (a ++ b) = occurrences c a + occurrences c b := by
  simp [occurrences]

theorem occurrences_escape (marks : mark ∈ markup) (s : String) :
    occurrences mark (escape s) = 0 :=
  List.count_eq_zero.mpr (not_mem_escape marks s)

theorem occurrences_concat {part : α → String} {n : Nat} (items : List α)
    (each : ∀ item, occurrences c (part item) = n) :
    occurrences c (concat (items.map part)) = n * items.length := by
  induction items with
  | nil => rfl
  | cons item items ih =>
      rw [List.map_cons, concat, occurrences_append, each, ih, List.length_cons, Nat.mul_succ,
        Nat.add_comm]

theorem occurrences_listItem (marks : mark ∈ markup) (project : String) :
    occurrences mark (listItem project) = occurrences mark (listItem "") := by
  simp only [listItem, occurrences_append, occurrences_escape marks]

theorem occurrences_link (marks : mark ∈ markup) (target : String × String) :
    occurrences mark (link target) = occurrences mark (link ("", "")) := by
  simp only [link, occurrences_append, occurrences_escape marks]

theorem occurrences_indexText (marks : mark ∈ markup) (projects : List String)
    (links : List (String × String)) :
    occurrences mark (indexText projects links) =
      occurrences mark (indexText [] []) + occurrences mark (listItem "") * projects.length +
        occurrences mark (link ("", "")) * links.length := by
  have items := occurrences_concat projects (occurrences_listItem marks)
  have anchors := occurrences_concat links (occurrences_link marks)
  have nothing : occurrences mark "" = 0 := rfl
  unfold indexText
  simp only [occurrences_append, items, anchors, List.map_nil, concat, nothing]
  ring

/-! ## Reading a page back -/

/-- A list that is written item by item can be read back from what stands in front of a text, if an
item can, and if that text cannot be taken for an item. -/
theorem concat_append_inj {part : α → String} (stop : List Char)
    (apart : ∀ item back back', (part item).toList ++ back ≠ stop ++ back')
    (exact : ∀ item item' back back',
      (part item).toList ++ back = (part item').toList ++ back' → item = item' ∧ back = back')
    {items items' : List α} {back back' : List Char}
    (same : (concat (items.map part)).toList ++ (stop ++ back) =
      (concat (items'.map part)).toList ++ (stop ++ back')) :
    items = items' ∧ back = back' := by
  have step : ∀ item (rest : List α) (tail : List Char),
      (concat ((item :: rest).map part)).toList ++ tail =
        (part item).toList ++ ((concat (rest.map part)).toList ++ tail) := by
    intro item rest tail
    rw [List.map_cons, concat, String.toList_append, List.append_assoc]
  induction items generalizing items' with
  | nil =>
      cases items' with
      | nil => exact ⟨rfl, List.append_cancel_left same⟩
      | cons item' items' =>
          rw [step] at same
          exact absurd same.symm (apart _ _ _)
  | cons item items ih =>
      cases items' with
      | nil =>
          rw [step] at same
          exact absurd same (apart _ _ _)
      | cons item' items' =>
          rw [step, step] at same
          obtain ⟨rfl, rest⟩ := exact _ _ _ _ same
          obtain ⟨rfl, tail⟩ := ih rest
          exact ⟨rfl, tail⟩

theorem append_mark_inj {cs ds : List Char} (absent : mark ∉ cs) (absent' : mark ∉ ds)
    (same : cs ++ mark :: front = ds ++ mark :: back) : cs = ds ∧ front = back := by
  rcases List.append_eq_append_iff.mp same with ⟨more, rfl, rest⟩ | ⟨more, rfl, rest⟩
  · cases more with
    | nil => exact ⟨by simp, List.cons_inj_right mark |>.mp rest⟩
    -- The longer text would hold the mark that ends the shorter one.
    | cons c more =>
        obtain ⟨rfl, -⟩ := List.cons_eq_cons.mp rest
        exact absurd List.mem_append_cons_self absent'
  · cases more with
    | nil => exact ⟨by simp, List.cons_inj_right mark |>.mp rest.symm⟩
    | cons c more =>
        obtain ⟨rfl, -⟩ := List.cons_eq_cons.mp rest
        exact absurd List.mem_append_cons_self absent

theorem escape_append_inj (marks : mark ∈ markup) {a b : String}
    (same : (escape a).toList ++ mark :: front = (escape b).toList ++ mark :: back) :
    a = b ∧ front = back := by
  obtain ⟨named, rest⟩ := append_mark_inj (not_mem_escape marks a) (not_mem_escape marks b) same
  exact ⟨escape_injective (String.toList_inj.mp named), rest⟩

theorem listItem_append_inj {a b : String}
    (same : (listItem a).toList ++ front = (listItem b).toList ++ back) : a = b ∧ front = back := by
  have closing : "</li>".toList = '<' :: "/li>".toList := rfl
  simp only [listItem, String.toList_append, List.append_assoc, closing, List.cons_append] at same
  obtain ⟨named, rest⟩ := escape_append_inj (by decide) (List.append_cancel_left same)
  exact ⟨named, List.append_cancel_left rest⟩

theorem link_append_inj {a b : String × String}
    (same : (link a).toList ++ front = (link b).toList ++ back) : a = b ∧ front = back := by
  have target : "\">".toList = '"' :: ">".toList := rfl
  have closing : "</a>".toList = '<' :: "/a>".toList := rfl
  simp only [link, String.toList_append, List.append_assoc, target, closing, List.cons_append] at same
  obtain ⟨mounted, rest⟩ := escape_append_inj (by decide) (List.append_cancel_left same)
  obtain ⟨named, rest⟩ := escape_append_inj (by decide) (List.append_cancel_left rest)
  exact ⟨Prod.ext mounted named, List.append_cancel_left rest⟩

theorem indexText_inj {projects projects' : List String} {links links' : List (String × String)} :
    indexText projects links = indexText projects' links' ↔ projects = projects' ∧ links = links' := by
  constructor
  · intro same
    rw [← String.toList_inj] at same
    unfold indexText at same
    simp only [String.toList_append, List.append_assoc] at same
    obtain ⟨listed, rest⟩ := concat_append_inj "</ul><nav>".toList
      (fun item back back' => by simp [listItem]) (fun _ _ _ _ => listItem_append_inj)
      (List.append_cancel_left same)
    have ending : "</nav></body></html>".toList = "</nav>".toList ++ "</body></html>".toList := rfl
    rw [ending] at rest
    obtain ⟨linked, -⟩ := concat_append_inj "</nav>".toList
      (fun item back back' => by simp [link]) (fun _ _ _ _ => link_append_inj) rest
    exact ⟨listed, linked⟩
  · rintro ⟨rfl, rfl⟩
    rfl

theorem dispatch_index (context : Context) (tree : FileTree) (request : Request) {path : String}
    (core : path ∈ ["/", "/index"]) :
    Route.dispatch context tree path request =
      .html (indexText context.subsystems.projects.manager.names (navigation context.plugins)) := by
  have served : Route.pages.lookup (Route.trimmed path) = some .index := by
    rw [List.mem_pair] at core
    rcases core with rfl | rfl <;> decide +kernel
  unfold Route.dispatch Route.select
  rw [served]
  rfl

/-- Whatever the names are, the page has the markup of its template: ten tags, two more for each
project and for each visible plugin, and the quotes around the targets of the links. Two servers show
the same page only if they have the same projects and the same navigation. -/
theorem index_reads_back :
    (∀ (projects : List String) (plugins : Registry),
      let page := indexText projects (navigation plugins)
      occurrences '<' page = 10 + 2 * projects.length + 2 * plugins.visible.length ∧
      occurrences '>' page = 10 + 2 * projects.length + 2 * plugins.visible.length ∧
      occurrences '"' page = 2 * plugins.visible.length) ∧
    (∀ context tree request, ∀ path ∈ ["/", "/index"],
      Route.dispatch context tree path request =
        .html (indexText context.subsystems.projects.manager.names (navigation context.plugins))) ∧
    (∀ (first second : Context) (request request' : Request),
      respond first request .index = respond second request' .index ↔
        first.subsystems.projects.manager.names = second.subsystems.projects.manager.names ∧
          navigation first.plugins = navigation second.plugins) ∧
    Function.Injective escape ∧
    (∀ a b, escape (a ++ b) = escape a ++ escape b) ∧
    (∀ s, ∀ mark ∈ ['<', '>', '"'], mark ∉ (escape s).toList) ∧
    (∀ s front back, (escape s).toList = front ++ '&' :: back →
      ∃ entity ∈ ["lt;", "gt;", "amp;", "quot;"], entity.toList <+: back) := by
  refine ⟨?_, ?_, ?_, escape_injective, escape_append, ?_, ?_⟩
  · intro projects plugins page
    have shown : (navigation plugins).length = plugins.visible.length := by simp [navigation]
    have counted : ∀ mark ∈ markup, occurrences mark page = _ :=
      fun mark marks => occurrences_indexText marks projects (navigation plugins)
    have less := counted '<' (by decide)
    have more := counted '>' (by decide)
    have quotes := counted '"' (by decide)
    have frame : occurrences '<' (indexText [] []) = 10 ∧ occurrences '>' (indexText [] []) = 10 ∧
        occurrences '"' (indexText [] []) = 0 := by decide
    have item : occurrences '<' (listItem "") = 2 ∧ occurrences '>' (listItem "") = 2 ∧
        occurrences '"' (listItem "") = 0 := by decide
    have anchor : occurrences '<' (link ("", "")) = 2 ∧ occurrences '>' (link ("", "")) = 2 ∧
        occurrences '"' (link ("", "")) = 2 := by decide
    rw [frame.1, item.1, anchor.1, shown] at less
    rw [frame.2.1, item.2.1, anchor.2.1, shown] at more
    rw [frame.2.2, item.2.2, anchor.2.2, shown] at quotes
    refine ⟨less, more, ?_⟩
    rw [quotes, Nat.zero_mul, Nat.add_zero, Nat.zero_add]
  · intro context tree request path core
    exact dispatch_index context tree request core
  · intro first second request request'
    rw [← indexText_inj]
    constructor
    · intro same
      exact congrArg Response.body same
    · intro same
      exact congrArg Response.html same
  · intro s mark marks
    exact not_mem_escape marks s
  · intro s front back split
    exact entity_of_escape split

end ViewerHost.Page
