import Gatehouse.Log.Directive

/-! Which events are logged, and which activities are told with them. A filter is a comma list of
directives; of those that match an event the most specific decides, and an event that none matches
is not logged. -/

namespace Gatehouse.Log

abbrev Filter := List Directive

namespace Filter

def standard : Filter := [.ofLimit (some .info)]

/-- An empty list lets errors pass and nothing else. -/
def parse (s : String) : Except Flaw Filter :=
  match (s.toList.splitOn ',').filter (!·.isEmpty) with
  | [] => .ok [.ofLimit (some .error)]
  | directives => directives.mapM fun piece => Directive.parse (String.ofList piece)

def ofSetting (setting : Option String) : Except Text.BrokenCut Filter :=
  match setting.map parse with
  | none => .ok standard
  | some (.ok filter) => .ok filter
  | some (.error .unreadable) => .ok standard
  | some (.error (.brokenCut cut)) => .error cut

def prefer (best : Option Directive) (d : Directive) : Option Directive :=
  match best with
  | none => some d
  | some b => if b.isAbove d then some b else some d

def decisive? (directives : List Directive) : Option Directive := directives.foldl prefer none

def permits (directives : List Directive) (level : Level) : Bool :=
  (decisive? directives).any fun d => d.limit.passes level

def plain (filter : Filter) (target : String) : List Directive :=
  filter.filter fun d => d.isPlain && d.matchesTarget target

def passes (filter : Filter) (event : Event) : Bool :=
  permits ((filter.plain event.target).filter
    (·.matchesFields ("message" :: event.fields.map (·.name)))) event.level

/-- Whether an activity is told with its events: some directive is about it, or its level passes
whatever its fields are. -/
def shows (filter : Filter) (activity : Activity) : Bool :=
  filter.any (fun d => d.isScoped && d.matchesActivity activity) ||
    permits (filter.plain activity.target) activity.level

def line? (filter : Filter) (event : Event) : Option String :=
  if filter.passes event then some (event.line (event.activity?.filter filter.shows)) else none

end Filter

end Gatehouse.Log
