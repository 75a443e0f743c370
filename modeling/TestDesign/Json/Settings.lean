import TestDesign.Assembly.Settings
import TestDesign.Json.Plans

/-!
# TestDesign.Json.Settings

Settings as JSON. Entries that are missing keep their default.
-/

namespace TestDesign.Json

def settingsReader : Reader Settings :=
  .record [
    .of "seed" true (.optional .text) fun x (s : Settings) => { s with seed := x },
    .of "min_random_string_size" true .natural fun x s => { s with minSize := x },
    .of "max_random_string_size" true .natural fun x s => { s with maxSize := x },
    .of "random_tries_to_invalid_values" true .natural fun x s => { s with tries := x },
    .of "ui_literal_case" true caseStyleReader fun x s => { s with literalCase := x },
    .of "real_delta" true (.optional .real) fun x s => { s with realDelta := x },
    .of "planners" true (.list strategyReader) fun x s => { s with strategies := x }] {}

end TestDesign.Json
