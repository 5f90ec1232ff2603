import ClientGen.Template.Syntax

/-!
# The built-in templates

The templates of all generated declarations and files.
-/

namespace ClientGen.Template

/-- A hole for a name of the context. -/
def shown (x : String) : Piece := .hole (.name x)

/-- A description in a comment of its own, if there is one. -/
def described (x : String) : Piece :=
  .when (.name x) [.text "/** ", .hole (.filtered .comment (.name x)), .text " */\n"] true

/-- The imports of other generated files, each after the word `keyword`. -/
def imports (keyword : String) : Piece :=
  .each "import" (.name "imports")
    [.text keyword, .hole (.field (.name "import") "namespace"), .text " from \"",
     .hole (.field (.name "import") "path"), .text "\";\n"] true

/-- Which template is meant. -/
inductive TemplateId
  | typeInterface
  | typeEnum
  | typeAlias
  | zodSchema
  | zodEnum
  | apiFunction
  | reactQueryQuery
  | reactQueryMutation
  | swrQuery
  | swrMutation
  | queryKeys
  | httpClient
  | fileTypes
  | fileSchemas
  | fileIndex
  | fileApi
  | fileHooksIndex
  deriving DecidableEq, Repr

namespace TemplateId

/-- All templates in order. -/
def all : List TemplateId :=
  [.typeInterface, .typeEnum, .typeAlias, .zodSchema, .zodEnum, .apiFunction,
   .reactQueryQuery, .reactQueryMutation, .swrQuery, .swrMutation, .queryKeys, .httpClient,
   .fileTypes, .fileSchemas, .fileIndex, .fileApi, .fileHooksIndex]

/-- The name of a template. -/
def text : TemplateId → String
  | .typeInterface => "type-interface"
  | .typeEnum => "type-enum"
  | .typeAlias => "type-alias"
  | .zodSchema => "zod-schema"
  | .zodEnum => "zod-enum"
  | .apiFunction => "api-client-fetch"
  | .reactQueryQuery => "hooks/react-query-query"
  | .reactQueryMutation => "hooks/react-query-mutation"
  | .swrQuery => "hooks/swr-query"
  | .swrMutation => "hooks/swr-mutation"
  | .queryKeys => "hooks/query-keys"
  | .httpClient => "runtime/http-client"
  | .fileTypes => "files/types"
  | .fileSchemas => "files/schemas"
  | .fileIndex => "files/index"
  | .fileApi => "files/api"
  | .fileHooksIndex => "files/hooks-index"

/-- The template of a name. -/
def ofText? (s : String) : Option TemplateId :=
  all.find? fun id => id.text == s

end TemplateId

/-- The declaration of an interface. -/
def typeInterface : Template :=
  [described "description", .text "export interface ", shown "name", .text " \x7b\n",
   .each "field" (.name "fields")
     [.when (.field (.name "field") "description")
        [.text "  /** ", .hole (.filtered .comment (.field (.name "field") "description")),
         .text " */\n"] true,
      .text "  ", .hole (.field (.name "field") "key"),
      .hole (.choice (.text "?") (.field (.name "field") "optional") (.text "")), .text ": ",
      .hole (.field (.name "field") "type"), .text ";\n"] true,
   .text "\x7d\n"]

/-- The declaration of an enumeration as a union of literals. -/
def typeEnum : Template :=
  [described "description", .text "export type ", shown "name", .text " =\n",
   .each "value" (.name "values")
     [.text "  ", .hole (.filtered .json (.name "value")),
      .hole (.choice (.text ";") (.field (.name "loop") "last") (.text " |")), .text "\n"] true]

/-- The declaration of any other type. -/
def typeAlias : Template :=
  [described "description", .text "export type ", shown "name", .text " = ", shown "type",
   .text ";\n"]

/-- The declaration of a validator. -/
def zodSchema : Template :=
  [described "description", .text "export const ", shown "name",
   .hole (.choice (.text ": z.ZodType<any>") (.name "annotate") (.text "")), .text " = ",
   shown "expression", .text ";\n"]

/-- The declaration of a validator for an enumeration. -/
def zodEnum : Template :=
  [.text "export const ", shown "name", .text " = z.enum([",
   .hole (.filtered (.join ", ") (.filtered .mapJson (.name "values"))), .text "]);\n"]

/-- A client function. -/
def apiFunction : Template :=
  [.when (.either (.name "summary") (.name "deprecated"))
     [.text "/**\n",
      .when (.name "summary")
        [.text " * ", .hole (.filtered .comment (.name "summary")), .text "\n"] true,
      .when (.name "deprecated")
        [.text " * @deprecated\n"] true,
      .text " */\n"] true,
   .text "export const ", shown "name", .text " = async (",
   .hole (.filtered (.join ", ") (.name "arguments")), .text "): Promise<",
   shown "response_type", .text "> => \x7b\n  const url = `", shown "url", .text "`",
   .hole (.choice (.text " + buildQuery(query)") (.name "has_query") (.text "")),
   .text ";\n  return ", shown "call", .text ";\n\x7d;\n"]

/-- A file with a hook that asks, for React Query. -/
def reactQueryQuery : Template :=
  [shown "banner",
   .text (String.join
       ["\n",
        "import \x7b useQuery, type UseQueryOptions \x7d from \"@tanstack/react-query\";\n",
        "import \x7b "]),
   shown "function_name", .text " \x7d from \"", shown "api_import", .text "\";\nimport \x7b ",
   shown "keys_name", .text " \x7d from \"", shown "keys_import", .text "\";\n",
   imports "import type * as ", .text "\nexport const ", shown "hook_name", .text " = (\n",
   .each "param" (.name "params")
     [.text "  ", shown "param", .text ",\n"] true,
   .text "  options?: Omit<UseQueryOptions<", shown "response_type",
   .text ", Error>, \"queryKey\" | \"queryFn\">,\n) =>\n  useQuery<", shown "response_type",
   .text ", Error>(\x7b\n    queryKey: ", shown "keys_name", .text ".", shown "function_name",
   .text "(", .hole (.filtered (.join ", ") (.name "args")), .text "),\n    queryFn: () => ",
   shown "function_name", .text "(", .hole (.filtered (.join ", ") (.name "args")),
   .text "),\n    ...options,\n  \x7d);\n"]

/-- A file with a hook that changes something, for React Query. -/
def reactQueryMutation : Template :=
  [shown "banner",
   .text (String.join
       ["\n",
        "import \x7b useMutation, useQueryClient, type UseMutationOptions \x7d from \"@tanstack/react-query\";\n",
        "import \x7b "]),
   shown "function_name", .text " \x7d from \"", shown "api_import", .text "\";\nimport \x7b ",
   shown "keys_name", .text " \x7d from \"", shown "keys_import", .text "\";\n",
   imports "import type * as ", .text "\nexport const ", shown "hook_name", .text " = (\n",
   .each "param" (.name "params")
     [.text "  ", shown "param", .text ",\n"] true,
   .text "  options?: Omit<UseMutationOptions<", shown "response_type", .text ", Error, ",
   shown "variables_type",
   .text (String.join
       [">, \"mutationFn\">,\n",
        ") => \x7b\n",
        "  const queryClient = useQueryClient();\n",
        "  return useMutation<"]),
   shown "response_type", .text ", Error, ", shown "variables_type",
   .text ">(\x7b\n    ...options,\n    mutationFn: (", shown "variables_param", .text ") => ",
   shown "function_name", .text "(", .hole (.filtered (.join ", ") (.name "args")),
   .text (String.join
       ["),\n",
        "    onSuccess: (...callbackArgs) => \x7b\n",
        "      queryClient.invalidateQueries(\x7b queryKey: "]),
   shown "keys_name",
   .text (String.join
       [".all \x7d);\n",
        "      return options?.onSuccess?.(...callbackArgs);\n",
        "    \x7d,\n",
        "  \x7d);\n",
        "\x7d;\n"])]

/-- A file with a hook that asks, for SWR. -/
def swrQuery : Template :=
  [shown "banner",
   .text (String.join
       ["\n",
        "import useSWR, \x7b type SWRConfiguration \x7d from \"swr\";\n",
        "import \x7b "]),
   shown "function_name", .text " \x7d from \"", shown "api_import", .text "\";\nimport \x7b ",
   shown "keys_name", .text " \x7d from \"", shown "keys_import", .text "\";\n",
   imports "import type * as ", .text "\nexport const ", shown "hook_name", .text " = (\n",
   .each "param" (.name "params")
     [.text "  ", shown "param", .text ",\n"] true,
   .text "  config?: SWRConfiguration<", shown "response_type",
   .text ", Error>,\n) =>\n  useSWR<", shown "response_type", .text ", Error>(\n    ",
   shown "keys_name", .text ".", shown "function_name", .text "(",
   .hole (.filtered (.join ", ") (.name "args")), .text "),\n    () => ", shown "function_name",
   .text "(", .hole (.filtered (.join ", ") (.name "args")), .text "),\n    config,\n  );\n"]

/-- A file with a hook that changes something, for SWR. -/
def swrMutation : Template :=
  [shown "banner",
   .text (String.join
       ["\n",
        "import useSWRMutation, \x7b type SWRMutationConfiguration \x7d from \"swr/mutation\";\n",
        "import \x7b "]),
   shown "function_name", .text " \x7d from \"", shown "api_import", .text "\";\nimport \x7b ",
   shown "keys_name", .text " \x7d from \"", shown "keys_import", .text "\";\n",
   imports "import type * as ", .text "\nexport const ", shown "hook_name", .text " = (\n",
   .each "param" (.name "params")
     [.text "  ", shown "param", .text ",\n"] true,
   .text "  config?: SWRMutationConfiguration<", shown "response_type",
   .text ", Error, readonly unknown[], ", shown "variables_type",
   .text ">,\n) =>\n  useSWRMutation<", shown "response_type",
   .text ", Error, readonly unknown[], ", shown "variables_type", .text ">(\n    ",
   shown "keys_name", .text ".", shown "function_name", .text "(",
   .hole (.filtered (.join ", ") (.name "key_args")), .text "),\n    (",
   shown "swr_variables_param", .text ") => ", shown "function_name", .text "(",
   .hole (.filtered (.join ", ") (.name "args")), .text "),\n    config,\n  );\n"]

/-- A file with the cache keys of a module. -/
def queryKeys : Template :=
  [shown "banner", .text "\n", imports "import type * as ", .text "\nexport const ",
   shown "keys_name", .text " = \x7b\n  all: [", .hole (.filtered .json (.name "module_key")),
   .text "] as const,\n",
   .each "entry" (.name "entries")
     [.text "  ", .hole (.field (.name "entry") "name"), .text ": (",
      .hole (.filtered (.join ", ") (.field (.name "entry") "params")), .text ") =>\n    [",
      .hole (.filtered .json (.name "module_key")), .text ", ",
      .hole (.filtered .json (.field (.name "entry") "name")),
      .each "arg" (.field (.name "entry") "args")
        [.text ", ", shown "arg"] false,
      .text "] as const,\n"] true,
   .text "\x7d;\n"]

/-- The HTTP client that all client functions use. -/
def httpClient : Template :=
  [shown "banner",
   .text (String.join
       ["\n",
        "export type QueryPrimitive = string | number | boolean | null | undefined;\n",
        "\n",
        "export type QueryParams = Record<string, QueryPrimitive | QueryPrimitive[] | unknown>;\n",
        "\n",
        "export class HttpError extends Error \x7b\n",
        "  constructor(\n",
        "    public readonly status: number,\n",
        "    public readonly statusText: string,\n",
        "    public readonly body: unknown,\n",
        "  ) \x7b\n",
        "    super(`HTTP error! status: $\x7bstatus\x7d`);\n",
        "    this.name = \"HttpError\";\n",
        "  \x7d\n",
        "\x7d\n",
        "\n",
        "export const buildQuery = (query?: QueryParams | object): string => \x7b\n",
        "  if (!query) \x7b\n",
        "    return \"\";\n",
        "  \x7d\n",
        "  const search = new URLSearchParams();\n",
        "  for (const [key, value] of Object.entries(query)) \x7b\n",
        "    if (value === undefined || value === null) \x7b\n",
        "      continue;\n",
        "    \x7d\n",
        "    if (Array.isArray(value)) \x7b\n",
        "      for (const item of value) \x7b\n",
        "        if (item !== undefined && item !== null) \x7b\n",
        "          search.append(key, String(item));\n",
        "        \x7d\n",
        "      \x7d\n",
        "    \x7d else if (typeof value === \"object\") \x7b\n",
        "      search.append(key, JSON.stringify(value));\n",
        "    \x7d else \x7b\n",
        "      search.append(key, String(value));\n",
        "    \x7d\n",
        "  \x7d\n",
        "  const text = search.toString();\n",
        "  return text ? `?$\x7btext\x7d` : \"\";\n",
        "\x7d;\n",
        "\n",
        "const readBody = async (response: Response): Promise<unknown> => \x7b\n",
        "  if (response.status === 204 || response.headers.get(\"content-length\") === \"0\") \x7b\n",
        "    return undefined;\n",
        "  \x7d\n",
        "  const contentType = response.headers.get(\"content-type\") ?? \"\";\n",
        "  if (contentType.includes(\"json\")) \x7b\n",
        "    return response.json();\n",
        "  \x7d\n",
        "  return response.text();\n",
        "\x7d;\n",
        "\n",
        "export const request = async <T = any>(\n",
        "  method: string,\n",
        "  url: string,\n",
        "  body?: unknown,\n",
        "  init: RequestInit = \x7b\x7d,\n",
        "): Promise<T> => \x7b\n",
        "  const headers = new Headers(init.headers);\n",
        "  let payload: BodyInit | null | undefined = init.body;\n",
        "  if (body !== undefined) \x7b\n",
        "    if (body instanceof FormData || body instanceof Blob) \x7b\n",
        "      payload = body;\n",
        "    \x7d else \x7b\n",
        "      headers.set(\"Content-Type\", \"application/json\");\n",
        "      payload = JSON.stringify(body);\n",
        "    \x7d\n",
        "  \x7d\n",
        "  const response = await fetch(url, \x7b ...init, method, headers, body: payload ?? null \x7d);\n",
        "  const data = await readBody(response);\n",
        "  if (!response.ok) \x7b\n",
        "    throw new HttpError(response.status, response.statusText, data);\n",
        "  \x7d\n",
        "  return data as T;\n",
        "\x7d;\n",
        "\n",
        "export const http = \x7b\n",
        "  get: <T = any>(url: string, init?: RequestInit) => request<T>(\"GET\", url, undefined, init),\n",
        "  head: <T = any>(url: string, init?: RequestInit) => request<T>(\"HEAD\", url, undefined, init),\n",
        "  options: <T = any>(url: string, init?: RequestInit) => request<T>(\"OPTIONS\", url, undefined, init),\n",
        "  post: <T = any>(url: string, body?: unknown, init?: RequestInit) => request<T>(\"POST\", url, body, init),\n",
        "  put: <T = any>(url: string, body?: unknown, init?: RequestInit) => request<T>(\"PUT\", url, body, init),\n",
        "  patch: <T = any>(url: string, body?: unknown, init?: RequestInit) => request<T>(\"PATCH\", url, body, init),\n",
        "  delete: <T = any>(url: string, body?: unknown, init?: RequestInit) => request<T>(\"DELETE\", url, body, init),\n",
        "\x7d;\n"])]

/-- A file with type declarations. -/
def fileTypes : Template :=
  [shown "banner", .text "\n", imports "import type * as ",
   .each "declaration" (.name "declarations")
     [.text "\n", shown "declaration", .text "\n"] true]

/-- A file with validators. -/
def fileSchemas : Template :=
  [shown "banner", .text "\nimport \x7b z \x7d from \"zod\";\n", imports "import * as ",
   .each "declaration" (.name "declarations")
     [.text "\n", shown "declaration", .text "\n"] true]

/-- The index file of a directory of schemas. -/
def fileIndex : Template :=
  [shown "banner", .text "\nexport * from \"./types\";\nexport * from \"./schemas\";\n"]

/-- A file with client functions. -/
def fileApi : Template :=
  [shown "banner", .text "\nimport \x7b http",
   .hole (.choice (.text ", buildQuery") (.name "uses_query") (.text "")),
   .text " \x7d from \"", shown "http_import", .text "\";\n", imports "import type * as ",
   .each "declaration" (.name "response_types")
     [.text "\n", shown "declaration", .text "\n"] true,
   .each "function" (.name "functions")
     [.text "\n", shown "function", .text "\n"] true]

/-- The index file of a directory of hooks. -/
def fileHooksIndex : Template :=
  [shown "banner", .text "\n",
   .each "hook" (.name "hooks")
     [.text "export * from \"./", shown "hook", .text "\";\n"] true]

/-- The built-in template of each name. -/
def builtin : TemplateId → Template
  | .typeInterface => typeInterface
  | .typeEnum => typeEnum
  | .typeAlias => typeAlias
  | .zodSchema => zodSchema
  | .zodEnum => zodEnum
  | .apiFunction => apiFunction
  | .reactQueryQuery => reactQueryQuery
  | .reactQueryMutation => reactQueryMutation
  | .swrQuery => swrQuery
  | .swrMutation => swrMutation
  | .queryKeys => queryKeys
  | .httpClient => httpClient
  | .fileTypes => fileTypes
  | .fileSchemas => fileSchemas
  | .fileIndex => fileIndex
  | .fileApi => fileApi
  | .fileHooksIndex => fileHooksIndex

end ClientGen.Template
