import ClientMigration.Catalog.Basic

/-! # The built-in catalog

What is known of the two client libraries: six idioms, each recognized by literal fragments of code. -/

namespace ClientMigration.Catalog

/-- The patterns of both dialects, from the fragments of code that they stand for. -/
def fragments (ioredis nodeRedis : List String) : List (Dialect × List Pattern) :=
  [(.ioredis, ioredis.map .literal), (.nodeRedis, nodeRedis.map .literal)]

/-- Commands sent in one batch. -/
def pipeline : Signature where
  idiom := .pipeline
  patterns := fragments [".pipeline()", ".multi()", ".exec()"]
    [".multi()", ".exec()"]
  keywords := ["multiple commands", "batch execution"]
  rating := .moderate
  requirements :=
    [{ kind := .api, severity := .medium,
       description := "Pipeline API syntax differs between libraries",
       impact := "Method calls and result handling need updates",
       solution := "Use GLIDE pipeline API with transaction semantics" }]
  recipes :=
    [{ name := "ioredis-pipeline-conversion",
       description := "Convert ioredis pipeline to GLIDE transaction",
       dialects := [.ioredis],
       edits :=
        [{ order := 1, action := .replace, target := "redis.pipeline()", newCode := "client.multi()",
           explanation := "Replace pipeline creation with multi" },
         { order := 2, action := .modify, target := ".exec()", newCode := ".exec()",
           explanation := "Update exec() call syntax" }],
       risks := ["Result array structure may differ"],
       validation := ["Test result parsing", "Verify error handling"] },
     { name := "node-redis-multi-conversion",
       description := "Convert node-redis multi() batches to a GLIDE transaction",
       dialects := [.nodeRedis],
       edits :=
        [{ order := 1, action := .replace, target := "client.multi()", newCode := "new Transaction()",
           explanation := "Build a GLIDE Transaction instead of a client-bound multi" },
         { order := 2, action := .modify, target := ".exec()", newCode := ".exec()",
           explanation := "Execute the batch with client.exec(transaction)" }],
       risks := ["Result array structure may differ"],
       validation := ["Test result parsing", "Verify error handling"] }]

/-- Commands that run as one unit. -/
def transaction : Signature where
  idiom := .transaction
  patterns := fragments [".multi()", ".exec()", ".discard()"]
    [".multi()", ".exec()", ".discard()"]
  keywords := ["atomic operations", "ACID semantics"]
  rating := .moderate
  requirements :=
    [{ kind := .behavioral, severity := .medium,
       description := "Transaction result handling may differ",
       impact := "Result array structure and error handling",
       solution := "Update result processing logic" }]
  recipes :=
    [{ name := "transaction-conversion",
       description := "Convert transaction blocks to GLIDE format",
       dialects := [.ioredis, .nodeRedis],
       edits :=
        [{ order := 1, action := .replace, target := "redis.multi()", newCode := "client.multi()",
           explanation := "Update multi() call" }],
       risks := ["Error handling differences"],
       validation := ["Test transaction rollback", "Verify ACID properties"] }]

/-- Clients of a cluster of servers. -/
def clustering : Signature where
  idiom := .clustering
  patterns := fragments ["new Redis.Cluster", ".nodes()", ".slots()"]
    ["createCluster", ".masters", ".replicas"]
  keywords := ["cluster deployment", "sharding"]
  rating := .complex
  requirements :=
    [{ kind := .api, severity := .high,
       description := "Cluster initialization and management APIs differ significantly",
       impact := "Complete cluster setup and management code needs rewriting",
       solution := "Use GLIDE cluster client with updated configuration" }]
  recipes :=
    [{ name := "cluster-migration",
       description := "Migrate cluster setup to GLIDE cluster client",
       dialects := [.ioredis, .nodeRedis],
       edits :=
        [{ order := 1, action := .replace, target := "new Redis.Cluster", newCode := "GlideClusterClient.createClient",
           explanation := "Replace cluster initialization" },
         { order := 2, action := .replace, target := "createCluster(", newCode := "GlideClusterClient.createClient(",
           explanation := "Replace node-redis cluster factory" }],
       risks := ["Configuration format changes", "Node discovery differences"],
       validation := ["Test cluster connectivity", "Verify failover behavior"] }]

/-- Publishing and subscribing to channels. -/
def pubsub : Signature where
  idiom := .pubsub
  patterns := fragments [".subscribe(", ".publish(", ".on('message'", ".psubscribe("]
    [".subscribe(", ".publish(", ".on('message'"]
  keywords := ["message publishing", "subscription handling"]
  rating := .moderate
  requirements :=
    [{ kind := .api, severity := .medium,
       description := "Pub/Sub event handling and subscription management",
       impact := "Event listener registration and message handling",
       solution := "Update to GLIDE pub/sub API" }]
  recipes :=
    [{ name := "pubsub-conversion",
       description := "Convert pub/sub implementation to GLIDE",
       dialects := [.ioredis, .nodeRedis],
       edits :=
        [{ order := 1, action := .modify, target := ".subscribe(", newCode := ".subscribe(",
           explanation := "Update subscription syntax" }],
       risks := ["Event handling differences"],
       validation := ["Test message delivery", "Verify subscription management"] }]

/-- Reading and writing streams. -/
def streaming : Signature where
  idiom := .streaming
  patterns := fragments [".xadd(", ".xread(", ".xgroup(", ".xreadgroup("]
    [".xAdd(", ".xRead(", ".xGroup", ".xReadGroup("]
  keywords := ["stream processing", "consumer groups"]
  rating := .complex
  requirements :=
    [{ kind := .syntactic, severity := .high,
       description := "Stream command parameter formats differ significantly",
       impact := "Stream entry format and consumer group management",
       solution := "Rewrite stream operations with GLIDE parameter formats" }]
  recipes :=
    [{ name := "stream-conversion",
       description := "Convert stream operations to GLIDE format",
       dialects := [.ioredis, .nodeRedis],
       edits :=
        [{ order := 1, action := .replace, target := "xadd(", newCode := "xadd(",
           explanation := "Update stream add syntax" },
         { order := 2, action := .replace, target := ".xAdd(", newCode := ".xadd(",
           explanation := "Lowercase node-redis stream add" },
         { order := 3, action := .replace, target := ".xReadGroup(", newCode := ".xreadgroup(",
           explanation := "Lowercase node-redis consumer-group read" },
         { order := 4, action := .replace, target := ".xRead(", newCode := ".xread(",
           explanation := "Lowercase node-redis stream read" }],
       risks := ["Parameter format changes", "Entry structure differences"],
       validation := ["Test stream operations", "Verify consumer group behavior"] }]

/-- Opening and closing connections. -/
def connection : Signature where
  idiom := .connection
  patterns := fragments ["new Redis(", ".connect(", ".disconnect(", ".on('connect'"]
    ["createClient(", ".connect(", ".disconnect(", ".on('connect'"]
  keywords := ["connection management", "configuration"]
  rating := .simple
  requirements :=
    [{ kind := .api, severity := .low,
       description := "Connection initialization and configuration format",
       impact := "Client creation and connection options",
       solution := "Update to GLIDE client creation pattern" }]
  recipes :=
    [{ name := "connection-conversion",
       description := "Convert connection setup to GLIDE client",
       dialects := [.ioredis, .nodeRedis],
       edits :=
        [{ order := 1, action := .replace, target := "new Redis(", newCode := "await GlideClient.createClient(",
           explanation := "Replace Redis constructor with GLIDE factory" }],
       risks := ["Configuration option mapping"],
       validation := ["Test connection establishment", "Verify configuration options"] }]

/-- The signatures in the order of registration. -/
def builtinEntries : List Signature := [pipeline, transaction, clustering, pubsub, streaming, connection]

/-- The built-in catalog. -/
def builtin : Catalog := ⟨builtinEntries⟩

/-- The catalog itself, or the built-in one in place of an empty one. -/
def orBuiltin (c : Catalog) : Catalog := if c.entries.isEmpty then builtin else c

end ClientMigration.Catalog
