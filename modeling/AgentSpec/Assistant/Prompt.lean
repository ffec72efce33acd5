import AgentSpec.Assistant.Request

/-!
The texts that tell the assistant what is wanted.
-/
namespace AgentSpec.Prompt

/-- The rules for a whole agent graph. -/
def contract : String := "\n".intercalate
  ["You design automation agents as typed entity graphs: models, actions and " ++
      "schedules.",
    "",
    "Hard constraints. Output that breaks any of them is rejected:",
    "1. Exactly one INITIAL model acts as the factory users fill in first. Set " ++
      "\"rootModel\" to its name.",
    "   Every other model that the agent generates records into is a CHILD model with " ++
      "a single-valued",
    "   reference field back to the initial model: \x7b\"type\": \"reference\", " ++
      "\"reference\": \x7b\"model\": \"<Initial>\", \"cardinality\": \"one\"\x7d\x7d.",
    "2. \"displayFields\" may only name fields that exist on the same model. Never " ++
      "invent names.",
    "3. Every form is typed. A \"new\" form creates a record and must not list derived " ++
      "or automatic fields.",
    "   An \"edit\" form updates a narrow subset of fields and is never used to create " ++
      "records.",
    "4. Only use external services listed in the permitted connections. Anything else " ++
      "becomes a generic",
    "   custom_code step that calls a webhook.",
    "5. A workflow that publishes AI-generated images to a platform needs TWO steps: " ++
      "an image_generation",
    "   step (no credentials) followed by a custom_code step whose description names " ++
      "the platform",
    "   (for example \"Post the image to X\").",
    "6. Field types: text, number, boolean, date, reference, enum, image_url, oauth. " ++
      "Enum fields list",
    "   at least one value in \"enumValues\".",
    "7. Step kinds: reasoning \x7bprompt\x7d, web_search \x7bquery\x7d, custom_code " ++
      "\x7b\x7d, image_generation \x7bprompt\x7d.",
    "   Every step lists \"inputFields\" and \"outputFields\" as field names of the " ++
      "action's target model.",
    "8. Schedules: \"mode\" is \"once\" or \"recurring\"; recurring schedules carry " ++
      "\"intervalHours\" >= 1.",
    "   Every schedule step names an existing model and an action that targets that " ++
      "model.",
    "9. Credentials live on a \"Workspace\" model. You may omit it; it is completed " ++
      "for you.",
    "",
    "Respond with ONE JSON object and nothing else:",
    "\x7b",
    "  \"rootModel\": \"string\",",
    "  \"models\": [\x7b\"name\": \"string\", \"fields\": [\x7b\"name\": \"string\", " ++
      "\"title\": \"string\", \"type\": \"text\", \"required\": false\x7d], " ++
      "\"displayFields\": [\"string\"], \"forms\": [\x7b\"name\": \"string\", \"title\": " ++
      "\"string\", \"kind\": \"new\", \"fields\": [\"string\"]\x7d]\x7d],",
    "  \"actions\": [\x7b\"name\": \"camelCase\", \"title\": \"string\", \"emoji\": " ++
      "\"single emoji\", \"description\": \"string\", \"targetModel\": \"string\", " ++
      "\"steps\": [\x7b\"name\": \"string\", \"description\": \"string\", \"kind\": " ++
      "\"reasoning\", \"prompt\": \"string\", \"inputFields\": [], \"outputFields\": " ++
      "[]\x7d]\x7d],",
    "  \"schedules\": [\x7b\"name\": \"string\", \"mode\": \"recurring\", " ++
      "\"intervalHours\": 24, \"steps\": [\x7b\"modelName\": \"string\", \"query\": " ++
      "\x7b\x7d, \"actionName\": \"string\", \"order\": 0\x7d]\x7d]",
    "\x7d"]

/-- The rules for the code of a step. -/
def codeRules : String := "\n".intercalate
  ["You write small, self-contained TypeScript functions for agent workflow steps.",
    "",
    "The function receives an object with the listed input fields and the available " ++
      "credentials,",
    "and returns an object with exactly the listed output fields.",
    "Use fetch for HTTP calls. Read secrets from environment variables, never " ++
      "hard-code them.",
    "",
    "Respond with ONE JSON object and nothing else:",
    "\x7b\"code\": \"string\", \"dependencies\": [\"npm package names\"], \"envVars\": " ++
      "[\"ENV_VAR_NAMES\"]\x7d"]

/-- The features as a numbered list. -/
def featureList (features : List Feature) : String :=
  if features.isEmpty then "(none listed, derive them from the description)"
  else "\n".intercalate <| features.zipIdx.map fun (f, i) =>
    s!"{i + 1}. {f.description}\n   User provides: {f.userProvides}\n" ++
      s!"   AI should: {f.aiShould}"

def listOrNone (names : List String) : String :=
  if names.isEmpty then "none" else ", ".intercalate names

/-- The prompt for a whole agent graph. -/
def synthesis (r : SynthesisRequest) : String :=
  s!"Design the agent \"{r.name}\".\n\nDescription:\n{r.description}\n\n" ++
    "Features:\n" ++ featureList r.features ++ "\n\n" ++
    "Permitted connections: " ++ listOrNone r.permitted ++ "\n\n" ++
    "Return the complete entity graph as JSON."

/-- The prompt for the code of a step. -/
def code (r : CodeRequest) : String :=
  s!"Write the code for step \"{r.stepName}\" on model \"{r.modelName}\".\n\n" ++
    s!"What it does:\n{r.description}\n\n" ++
    "Input fields: " ++ listOrNone r.inputFields ++ "\n" ++
    "Output fields: " ++ listOrNone r.outputFields

end AgentSpec.Prompt
